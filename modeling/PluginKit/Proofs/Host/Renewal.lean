import PluginKit.Proofs.Host.Launches
import PluginKit.Proofs.Host.Namesakes

/-!
# Instances from before a shutdown and instances that have gone

A shutdown forgets the cells, so a task that looks up a plugin afterwards is given an instance that was
asked for afterwards as well. Nothing but a shutdown forgets a cell: a process may exit at any moment of
its own accord, as its launcher has it, and its instance is handed out as before.

## Main statements

- `looksUp_unique`: a task looks up its plugin once.
- `source_of_found`: an instance that is found was asked for in the generation of the task that finds it.
- `found_eq_of_running`: a task that looks up a plugin while its instance is running is given no other.
- `renewed_by_shutdowns`: what a shutdown ends is not handed out to those who look later, and nothing
  else takes an instance out of use.
- `not_handsOutLive_idle`: an instance may be handed out whose process has exited.
-/

namespace PluginKit

variable {σ τ : Type} {l : Launcher τ}

namespace History

open Host

variable {r : History σ l}

/-! ## Lookups -/

/-- A task looks up its plugin once. -/
theorem looksUp_unique {n a b : Nat} {k k' : Ticket} (looks : r.LooksUp n k a)
    (looks' : r.LooksUp n k' b) : b = a ∧ k' = k := by
  obtain ⟨kind, tag, looking, -⟩ := looks.looking
  obtain ⟨kind', tag', looking', -⟩ := looks'.looking
  have before := looked_before looks.queued rfl looking'
  have after := looked_before looks'.queued rfl looking
  obtain rfl : b = a := by omega
  cases looks.queued.symm.trans looks'.queued
  exact ⟨rfl, rfl⟩

/-- While its plugin has a cell, a task looks up this cell. -/
theorem cell_of_looksUp {n a i : Nat} {k : Ticket} (looks : r.LooksUp n k a)
    (place : ((r.state a).registries k.capability).cells.get? k.descriptor.id = some i) :
    k.cell = i := by
  have cell : k.cell = ((r.state a).cellOf k.capability k.descriptor.id).1 :=
    congrArg Ticket.cell looks.ticket
  rw [cell, cellOf, place]

/-- A task that looks up a plugin while its instance is running is given this instance and no other. -/
theorem found_eq_of_running {n a m i j : Nat} {k : Ticket} {c : Capability} {rn : Running τ}
    (looks : r.LooksUp n k a)
    (place : ((r.state a).registries k.capability).cells.get? k.descriptor.id = some i)
    (runs : (r.state a).running? i = some rn)
    (found : (r.state m).stage? n = some (.found c (.instance j))) :
    j = i ∧ (r.state m).running? j = some rn := by
  obtain ⟨b, hb, k', looks', -, rfl, -⟩ := looked_up_of_found found
  obtain ⟨rfl, rfl⟩ := looksUp_unique looks looks'
  have cell := cell_of_looksUp looks place
  refine ⟨cell, ?_⟩
  rw [cell]
  exact running_of_le (Nat.le_of_lt hb) runs

/-! ## Where an instance was asked for -/

/-- The process of an instance was given to a task that had looked up a plugin at a moment: the one
that launched it. -/
def LaunchedAt (r : History σ l) (c : Capability) (id : PluginId) (rn : Running τ) (b : Nat) : Prop :=
  ∃ n k, r.LooksUp n k b ∧ k.capability = c ∧ k.descriptor.id = id ∧
    ∃ q x, (r.state q).stage? n = some (.started k rn.process x) ∧
      rn = Running.ofStarted k rn.process x

/-- The task that a process was given to has looked up its plugin at the moment of the launch. -/
theorem LaunchedAt.eq {c : Capability} {id : PluginId} {rn : Running τ} {b b' q n : Nat} {k : Ticket}
    {x : Started τ} (launched : r.LaunchedAt c id rn b)
    (gave : (r.state q).stage? n = some (.started k rn.process x)) (looks : r.LooksUp n k b') :
    b' = b := by
  obtain ⟨n', k', looks', -, -, q', x', gave', -⟩ := launched
  obtain ⟨rfl, rfl⟩ : n' = n ∧ k' = k := by
    rcases Nat.le_total q q' with le | le
    · obtain ⟨rfl, rfl, -⟩ := gave_unique le gave gave'
      exact ⟨rfl, rfl⟩
    · obtain ⟨rfl, rfl, -⟩ := gave_unique le gave' gave
      exact ⟨rfl, rfl⟩
  exact (looksUp_unique looks' looks).1

/-- An instance that is found was launched by a task that had looked up the same name in the same
generation as the one that finds it. -/
theorem source_of_found {m n i : Nat} {c : Capability}
    (found : (r.state m).stage? n = some (.found c (.instance i))) :
    ∃ a k rn b, r.LooksUp n k a ∧ k.capability = c ∧ k.cell = i ∧
      (r.state m).running? i = some rn ∧ r.LaunchedAt c k.descriptor.id rn b ∧
      r.closings c b = r.closings c a := by
  obtain ⟨a, -, k, looks, rfl, rfl, rn, runs⟩ := looked_up_of_found found
  obtain ⟨q, -, n', k', p, x, gave, cell, rfl⟩ := started_of_running runs
  obtain ⟨b, -, looks'⟩ := looksUp_of_ticket gave rfl
  -- the task that launched the instance may have looked before or after this one
  obtain ⟨capability, id, tie⟩ : k'.capability = k.capability ∧
      k'.descriptor.id = k.descriptor.id ∧
      r.closings k.capability b = r.closings k.capability a := by
    rcases Nat.le_total a b with le | le
    · exact same_generation looks looks' le cell
    · obtain ⟨capability, id, tie⟩ := same_generation looks' looks le cell.symm
      exact ⟨capability.symm, id.symm, (capability ▸ tie).symm⟩
  exact ⟨a, k, _, b, looks, rfl, rfl, runs,
    ⟨n', k', looks', capability, id, q, x, gave, rfl⟩, tie⟩

/-- Of one generation, lookups are on the same side of a shutdown. -/
theorem ShutsDown.lt_of_closings {t c i j a b} (shuts : r.ShutsDown t c i j) (after : i < a)
    (tie : r.closings c b = r.closings c a) : i < b := by
  refine Nat.lt_of_not_le fun before => ?_
  -- else the shutdown would have begun a generation between the two
  have one := shuts.closings
  have lo := r.closings_mono c before
  have hi : r.closings c (i + 1) ≤ r.closings c a := r.closings_mono c after
  omega

/-- A process that is tracked when a shutdown begins was launched by a task that had looked up its plugin
before. -/
theorem lookup_of_tracked {i p : Nat} {c : Capability}
    (tracked : p ∈ ((r.state i).registries c).tracked) : ∃ q n k x b, b < i ∧
      (r.state q).stage? n = some (.started k p x) ∧ r.LooksUp n k b := by
  obtain ⟨e, he, n, k, x, gave, -⟩ := admitted_of_tracked tracked
  obtain ⟨b, hb, looks⟩ := looksUp_of_ticket gave rfl
  exact ⟨e, n, k, x, b, Nat.lt_trans hb he, gave, looks⟩

/-! ## What is handed out -/

/-- No instance is handed out whose process had exited, or had been taken by a shutdown, before its
finder looked up the plugin. -/
def HandsOutLive (r : History σ l) : Prop :=
  ∀ n k a m c i rn, r.LooksUp n k a → (r.state m).stage? n = some (.found c (.instance i)) →
    (r.state m).running? i = some rn →
    ¬ (r.state a).Exited rn.process ∧ rn.process ∉ (r.state a).taken

/-- Instances are renewed by shutdowns only. A task that looks up a plugin after a shutdown has begun is
given an instance that was launched for a lookup after that beginning, so none of those that were tracked
then. But as long as the instance of a plugin is in its cell and no shutdown has taken its process, a task
that looks up the plugin is given this instance, whether or not its process has exited. -/
theorem renewed_by_shutdowns (r : History σ l) :
    (∀ m n c i, (r.state m).stage? n = some (.found c (.instance i)) →
      ∃ a k rn b, r.LooksUp n k a ∧ k.capability = c ∧ (r.state m).running? i = some rn ∧
        r.LaunchedAt c k.descriptor.id rn b ∧
        ∀ t i j, r.ShutsDown t c i j → i < a →
          i < b ∧ rn.process ∉ ((r.state i).registries c).tracked) ∧
    ∀ a c kind tag d i rn, ((r.state a).registries c).lookup kind tag = .ok (.plugin d) →
      ((r.state a).registries c).cells.get? d.id = some i → (r.state a).running? i = some rn →
      rn.process ∉ (r.state a).taken →
      (∀ n k m j, r.LooksUp n k a → k.capability = c → k.descriptor = d →
        (r.state m).stage? n = some (.found c (.instance j)) → (r.state m).running? j = some rn) ∧
      ∃ r' : History σ l, (∀ j ≤ a, r'.state j = r.state j) ∧
        ∃ n k, r'.LooksUp n k (a + 1) ∧ k.descriptor = d ∧
          (r'.state (a + 3)).stage? n = some (.found c (.instance i)) ∧
          (r'.state (a + 3)).running? i = some rn := by
  constructor
  · intro m n c i found
    obtain ⟨a, k, rn, b, looks, capability, -, runs, launched, tie⟩ := source_of_found found
    refine ⟨a, k, rn, b, looks, capability, runs, launched, ?_⟩
    intro t i j shuts after
    have later := shuts.lt_of_closings after tie
    refine ⟨later, fun tracked => ?_⟩
    -- what is tracked then was looked up too early
    obtain ⟨q, n', k', x, b', early, gave, looks'⟩ := lookup_of_tracked tracked
    have same := launched.eq gave looks'
    omega
  · intro a c kind tag d i rn serves place runs _
    refine ⟨?_, found_while_running serves place runs⟩
    rintro n k m j looks rfl rfl found
    exact (found_eq_of_running looks place runs found).2

/-- A launcher of processes that exit of their own accord at a moment. -/
def fleetingLauncher (exitsAt : Nat) : Launcher Unit := fun d c count =>
  { outcome := (sampleLauncher 0 d c count).outcome.map fun x =>
      { x with process := { x.process with exitsAt := some exitsAt } } }

/-- The task 0 has an instance started whose process exits after 700 milliseconds. The task 1 asks for
the same plugin when a second has passed, and the task 3 after the task 2 has stopped all instances. -/
def idle : History Unit (fleetingLauncher 700) :=
  ofScript (fleetingLauncher 700) fresh_sampleHost
    [bindSample, findSample, .go 0, .go 0, .go 0, .go 0, .wait 1000, findSample, .go 1, .go 1,
      stopSample, .go 2, .go 2, .go 2, findSample, .go 3, .go 3, .go 3, .go 3]

theorem looksUp_idle : ∃ k, idle.LooksUp 1 k 8 ∧ k.capability = .resourceRepository ∧
    k.descriptor = samplePlugin "a" :=
  ⟨_, ⟨⟨"", sampleType, rfl, rfl⟩, rfl, rfl⟩, rfl, rfl⟩

theorem exited_idle : (idle.state 8).Exited 0 := ⟨_, rfl, by decide⟩

/-- The task 1 is given the instance whose process has exited. -/
theorem not_handsOutLive_idle : ¬ idle.HandsOutLive := by
  intro live
  obtain ⟨k, looks, -⟩ := looksUp_idle
  exact (live 1 k 8 10 .resourceRepository 0 _ looks rfl rfl).1 exited_idle

/-- The task 1 can be given nothing else, and the task 3 is given another instance. -/
theorem idle_renewed :
    (∃ rn, (idle.state 10).running? 0 = some rn ∧ rn.process = 0) ∧
    idle.ShutsDown 2 .resourceRepository 12 13 ∧
    ∃ rn, (idle.state 19).running? 1 = some rn ∧
      rn.process ∉ ((idle.state 12).registries .resourceRepository).tracked := by
  have shuts : idle.ShutsDown 2 .resourceRepository 12 13 :=
    ⟨by decide, [], [], none, rfl, rfl, rfl, rfl⟩
  refine ⟨?_, shuts, ?_⟩
  · obtain ⟨k, looks, capability, descriptor⟩ := looksUp_idle
    obtain ⟨given, -⟩ := (renewed_by_shutdowns idle).2 8 .resourceRepository "" sampleType
      (samplePlugin "a") 0 _ rfl rfl rfl (by decide)
    exact ⟨_, given 1 k 10 0 looks capability descriptor rfl, rfl⟩
  · obtain ⟨a, k, rn, b, looks, -, runs, -, renewed⟩ :=
      (renewed_by_shutdowns idle).1 19 3 .resourceRepository 1 rfl
    have late : idle.LooksUp 3 _ 15 := ⟨⟨"", sampleType, rfl, rfl⟩, rfl, rfl⟩
    have after : 12 < a := by
      rw [(looksUp_unique late looks).1]
      decide
    exact ⟨rn, runs, (renewed 2 12 13 shuts after).2⟩

end History

end PluginKit
