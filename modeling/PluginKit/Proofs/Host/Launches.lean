import PluginKit.Proofs.Host.Cells
import PluginKit.Proofs.Host.Shutdown

/-!
# How many instances of a plugin are alive

A cell keeps the starts of a plugin apart, but every shutdown forgets the cells. Two launches of one
plugin are alive at once only across a shutdown that came between their lookups. Then nothing keeps
them apart.

## Main statements

- `exited_of_ended`: a process that a task has seen to the end of has exited.
- `eq_of_live`: of the launches for one cell at most one is alive.
- `overlaps_across_shutdown`: when two launches of a plugin are alive at once, and that every shutdown
  brings this about.
- `not_alone_relaunch`: two launches of a plugin may be alive at once.
-/

namespace PluginKit

variable {σ τ : Type} {l : Launcher τ}

theorem Stage.ended_subset {s : Stage σ τ} : s.ended ⊆ s.processes := by
  cases s <;> simp [Stage.ended, Stage.processes, Stage.taken, Stage.handed, Stage.returned]

namespace Host

variable {h g : Host σ τ}

/-! ## Processes that have exited -/

/-- The process is there and has exited. -/
def Exited (h : Host σ τ) (p : Nat) : Prop :=
  ∃ x, h.processes[p]? = some x ∧ x.hasExited h.now = true

theorem hasExited_interrupt {x : Process} {now : Nat} (exited : x.hasExited now = true) :
    (x.interrupt now).hasExited now = true := by
  unfold Process.interrupt
  split
  · exact exited
  · next none_ => simp [Process.hasExited, none_] at exited

theorem exited_onProcess {f : Process → Process} {p q : Nat} {e : Event}
    (keeps : ∀ x : Process, x.hasExited h.now = true → (f x).hasExited h.now = true)
    (exited : h.Exited p) : ((h.onProcess q f).note e).Exited p := by
  obtain ⟨x, there, gone⟩ := exited
  show ∃ y, (h.processes.modify q f)[p]? = some y ∧ _
  rw [List.getElem?_modify, there]
  by_cases same : q = p
  · exact ⟨f x, by simp [same], keeps x gone⟩
  · exact ⟨x, by simp [same], gone⟩

theorem exited_interrupting (ps : List Nat) {p : Nat} (exited : h.Exited p) :
    (h.interrupting ps).Exited p := by
  induction ps generalizing h with
  | nil => exact exited
  | cons q ps ih => exact ih (exited_onProcess (fun x => hasExited_interrupt) exited)

theorem exited_killLeft (ps : List Nat) {p : Nat} (exited : h.Exited p) :
    (h.killLeft ps).Exited p := by
  induction ps generalizing h with
  | nil => exact exited
  | cons q ps ih =>
    unfold killLeft
    split
    · split
      · exact ih exited
      · exact ih (exited_onProcess (fun x _ => Process.hasExited_kill h.now x) exited)
    · exact ih exited

/-- Of processes of which those that have not exited are killed, each has exited. -/
theorem exited_of_killLeft {ps : List Nat} {p : Nat} (mem : p ∈ ps)
    (there : p < h.processes.length) : (h.killLeft ps).Exited p := by
  induction ps generalizing h with
  | nil => cases mem
  | cons q ps ih =>
    unfold killLeft
    -- it is the turn of the process, or that of another one
    rcases List.mem_cons.1 mem with rfl | mem
    · split
      · next x item =>
        split
        · next gone => exact exited_killLeft ps ⟨x, item, gone⟩
        · refine exited_killLeft ps ⟨x.kill h.now, ?_, Process.hasExited_kill h.now x⟩
          show (h.processes.modify p (Process.kill h.now))[p]? = _
          simp [item]
      · next absent => exact absurd there (Nat.not_lt_of_le (List.getElem?_eq_none_iff.1 absent))
    · split
      · split
        · exact ih mem there
        · exact ih mem (by rwa [(onlyProcesses_onProcess h q _ _).count])
      · exact ih mem there

theorem exited_later {p : Nat} (exited : h.Exited p) (processes : g.processes = h.processes)
    (later : h.now ≤ g.now) : g.Exited p := by
  obtain ⟨x, there, gone⟩ := exited
  refine ⟨x, by rw [processes, there], ?_⟩
  unfold Process.hasExited at gone ⊢
  cases ends : x.exitsAt with
  | none => simp [ends] at gone
  | some e =>
    simp only [ends, Option.any_some, decide_eq_true_eq] at gone ⊢
    exact Nat.le_trans gone later

/-- A process that has exited stays so when a task moves. -/
theorem Moves.exited {n p : Nat} {s s' : Stage σ τ} (m : Moves l h n s s' g) (exited : h.Exited p) :
    g.Exited p := by
  have now := m.now
  cases m with
  | joined sought => exact exited_later exited (processes_cellOf h _ _) (Nat.le_of_eq now.symm)
  | @returned k r x =>
    obtain ⟨y, there, gone⟩ := exited
    exact ⟨y, (List.getElem?_append_left (List.getElem?_eq_some_iff.1 there).1).trans there, gone⟩
  | overtaken => exact exited_onProcess (fun x => hasExited_interrupt) exited
  | @discharged k q t => exact exited_killLeft [q] exited
  | @drained c left taken t =>
    have kept : (h.onRegistry c fun r => { r with tracked := [] }).Exited p := exited
    exact exited_interrupting (h.registries c).tracked kept
  | @finished taken t outcome => exact exited_killLeft taken.flatten exited
  | _ => exact exited_later exited rfl (Nat.le_refl _)

/-- A task sees to the end of those processes that it has. -/
theorem Moves.exited_of_ended {n p : Nat} {s s' : Stage σ τ} (m : Moves l h n s s' g)
    (mem : p ∈ s'.ended) (there : p < g.processes.length) : g.Exited p := by
  cases m with
  | @discharged k q t =>
    have size := (onlyProcesses_killLeft [q] h).count
    exact exited_of_killLeft (h := h) mem (size ▸ there)
  | @finished taken t outcome =>
    have size := (onlyProcesses_killLeft taken.flatten h).count
    exact exited_of_killLeft mem (size ▸ there)
  | _ => cases mem

theorem exited_step {p : Nat} (step : Step l h g) (exited : h.Exited p) : g.Exited p := by
  rcases step_cases step with kept | ⟨n, s, s', g', -, moves, rfl⟩
  · exact exited_later exited kept.processes kept.later
  · exact moves.exited exited

end Host

namespace History

open Host

variable {r : History σ l}

/-- A process that a task has seen to the end of has exited. -/
theorem exited_of_ended {m p : Nat} (ended : Ended (r.state m) p) : (r.state m).Exited p := by
  induction m with
  | zero =>
    obtain ⟨n, s, at_, -⟩ := ended
    rw [stage?, r.fresh.tasks] at at_
    cases at_
  | succ m ih =>
    obtain ⟨n, s, at_, mem⟩ := ended
    rcases step_task (r.step m) n with same | ⟨-, s', begins, came⟩ | ⟨t, t', g, due, moves, eq, came⟩
    · exact exited_step (r.step m) (ih ⟨n, s, same.symm.trans at_, mem⟩)
    · cases came.symm.trans at_
      have held := Stage.ended_subset mem
      rw [Stage.processes_begins begins] at held
      cases held
    · cases came.symm.trans at_
      have there := lt_count_of_mem at_ (Stage.ended_subset mem)
      rw [eq] at there ⊢
      exact moves.exited_of_ended mem there

/-! ## Launches that are alive -/

/-- A launch with a ticket is alive at a moment: the start is under way, or it has given a process that
no task has seen to the end of. -/
def Live (r : History σ l) (m n : Nat) (k : Ticket) : Prop :=
  (∃ t outcome, (r.state m).stage? n = some (.starting k t outcome)) ∨
    ∃ q ≤ m, ∃ p x, (r.state q).stage? n = some (.started k p x) ∧ ¬ Ended (r.state m) p

theorem Live.looksUp {m n : Nat} {k : Ticket} (live : r.Live m n k) : ∃ a, r.LooksUp n k a := by
  rcases live with ⟨t, outcome, at_⟩ | ⟨q, -, p, x, gave, -⟩
  · obtain ⟨a, -, looks⟩ := looksUp_of_ticket at_ rfl
    exact ⟨a, looks⟩
  · obtain ⟨a, -, looks⟩ := looksUp_of_ticket gave rfl
    exact ⟨a, looks⟩

/-- A launch that is alive has the next turn in its cell, or its instance is there. -/
theorem Live.cases {m n : Nat} {k : Ticket} (live : r.Live m n k) :
    (r.state m).First n k.cell ∨ ∃ q p x, (r.state q).stage? n = some (.started k p x) ∧
      (r.state m).running? k.cell = some (Running.ofStarted k p x) := by
  rcases live with ⟨t, outcome, at_⟩ | ⟨q, hq, p, x, gave, alive⟩
  · exact .inl (r.orderly m n _ k at_ rfl)
  · rcases fate_of_started hq gave with ⟨s, at_, starts⟩ | runs | ended
    · refine .inl (r.orderly m n s k at_ ?_)
      rcases starts with rfl | ⟨t, rfl⟩ <;> rfl
    · exact .inr ⟨q, p, x, gave, runs⟩
    · exact absurd ended alive

theorem not_running_of_first {h : Host σ τ} {n i : Nat} {rn : Running τ} (first : h.First n i) :
    h.running? i ≠ some rn := by
  obtain ⟨cell, there, -, empty⟩ := first
  simp [running?, there, empty]

/-- Of the launches for one cell at most one is alive. -/
theorem eq_of_live {m n n' : Nat} {k k' : Ticket} (live : r.Live m n k) (live' : r.Live m n' k')
    (cell : k'.cell = k.cell) : n' = n := by
  -- a cell has one first task or one instance, and not both
  rcases live.cases with first | ⟨q, p, x, gave, runs⟩ <;>
    rcases live'.cases with first' | ⟨q', p', x', gave', runs'⟩
  · exact first_unique (cell ▸ first') first
  · exact absurd (cell ▸ runs') (not_running_of_first first)
  · exact absurd runs (not_running_of_first (cell ▸ first'))
  · have same := Option.some.inj ((cell ▸ runs').symm.trans runs)
    obtain rfl : p' = p := congrArg Running.process same
    rcases Nat.le_total q q' with le | le
    · exact (gave_unique le gave gave').1
    · exact (gave_unique le gave' gave).1.symm

/-- Two launches of a plugin are alive at once only if a shutdown began between their lookups. -/
theorem lookups_apart {m n n' : Nat} {k k' : Ticket} (live : r.Live m n k) (live' : r.Live m n' k')
    (ne : n' ≠ n) (capability : k'.capability = k.capability)
    (id : k'.descriptor.id = k.descriptor.id) :
    ∃ a b, r.LooksUp n k a ∧ r.LooksUp n' k' b ∧
      r.closings k.capability a ≠ r.closings k.capability b := by
  obtain ⟨a, looks⟩ := live.looksUp
  obtain ⟨b, looks'⟩ := live'.looksUp
  refine ⟨a, b, looks, looks', fun tie => ne ?_⟩
  refine eq_of_live live live' ?_
  rcases Nat.le_total a b with le | le
  · exact cell_of_lookups looks looks' le capability id (Nat.le_of_eq tie.symm)
  · refine (cell_of_lookups looks' looks le capability.symm id.symm ?_).symm
    rw [capability]
    exact Nat.le_of_eq tie

end History

/-! ## The launch after a shutdown -/

namespace Host

variable {h g : Host σ τ}

/-- A task for a plugin that has no cell is alone in the queue of a new one. -/
theorem alone_of_absent {n : Nat} {c : Capability} {d : PluginDescriptor}
    (absent : (h.registries c).cells.get? d.id = none) :
    (h.joining n c d).cells[(h.ticket c d).cell]? = some { queue := [n] } := by
  have new : (h.cellOf c d.id).1 = h.cells.length ∧
      (h.cellOf c d.id).2.cells = h.cells ++ [({} : Cell τ)] := by
    unfold cellOf
    rw [absent]
    exact ⟨rfl, rfl⟩
  rw [joining, cells_onStage, ticket, cells_onCell, if_pos rfl, new.1, new.2,
    List.getElem?_append_right (Nat.le_refl _)]
  simp

/-- A task whose turn it is at an empty cell launches the instance. -/
theorem launched_of_idle {n : Nat} {k : Ticket} (due : h.Due n (.queued k))
    (idle : h.running? k.cell = none) : ∃ t outcome,
      Act.goOn l h n = (h.launching k).onStage n (.starting k t outcome) := by
  obtain ⟨s, g, moves, went⟩ := moves_next l h n (s := .queued k) (by simp [Stage.rank])
  have started := (Act.goOn_of_due due).trans went
  cases moves with
  | shared runs => cases idle.symm.trans runs
  | launched => exact ⟨_, _, started⟩

/-- A caller that asks for a plugin without a cell can have it launched in three steps, whatever other
tasks there are. -/
theorem launch_of_absent {c : Capability} {kind : String} {tag : TypeId} {d : PluginDescriptor}
    (serves : (h.registries c).lookup kind tag = .ok (.plugin d))
    (absent : (h.registries c).cells.get? d.id = none) :
    let g := History.play l h (History.findAndGo c kind tag h.tasks.length) 3
    ∃ k t outcome, k.capability = c ∧ k.descriptor = d ∧
      g.stage? h.tasks.length = some (.starting k t outcome) ∧
      ∀ n ≠ h.tasks.length, g.stage? n = h.stage? n := by
  have due : (h.ask 0 (.looking c kind tag)).2.Due h.tasks.length (.looking c kind tag) :=
    due_ask rfl
  obtain ⟨went, ready, others⟩ := joined_of_serves (l := l) due serves
  -- nobody else waits for the new cell, so the task need not wait for a launch under way
  have alone := alone_of_absent (h := (h.ask 0 (.looking c kind tag)).2) (n := h.tasks.length) absent
  have due' := ready (by simp [mayGoOn, alone])
  obtain ⟨t, outcome, launched⟩ := launched_of_idle (l := l) due' (by simp [running?, alone])
  refine ⟨(h.ask 0 (.looking c kind tag)).2.ticket c d, t, outcome, rfl, rfl, ?_⟩
  have played : History.play l h (History.findAndGo c kind tag h.tasks.length) 3 =
      Act.goOn l (Act.goOn l (h.ask 0 (.looking c kind tag)).2 h.tasks.length) h.tasks.length := rfl
  rw [played, went, launched]
  refine ⟨stage?_onStage due'.at_ rfl _, fun n ne => ?_⟩
  rw [stage?_onStage_ne _ ne, launching, stage?_congr (tasks_note _ _)]
  exact (others n ne).trans (stage?_ask_ne h 0 _ ne)

end Host

namespace History

open Host

variable {r : History σ l}

/-- No plugin has two launches that are alive at a moment. -/
def Alone (r : History σ l) (m : Nat) : Prop :=
  ∀ n n' k k', r.Live m n k → r.Live m n' k' → k'.capability = k.capability →
    k'.descriptor.id = k.descriptor.id → n' = n

/-- A launch that is alive stays so while only another task begins its own. -/
theorem Live.beside {r' : History σ l} {m m' n n' : Nat} {k : Ticket} (live : r.Live m n k)
    (h : m ≤ m') (same : ∀ j ≤ m, r'.state j = r.state j) (ne : n ≠ n')
    (others : ∀ i ≠ n', (r'.state m').stage? i = (r.state m).stage? i) {s : Stage σ τ}
    (at_ : (r'.state m').stage? n' = some s) (none_ : s.ended = []) : r'.Live m' n k := by
  rcases live with ⟨t, outcome, there⟩ | ⟨q, hq, p, x, gave, alive⟩
  · exact .inl ⟨t, outcome, (others n ne).trans there⟩
  · refine .inr ⟨q, Nat.le_trans hq h, p, x, by rw [same q hq, gave], fun ended => alive ?_⟩
    obtain ⟨i, u, there, mem⟩ := ended
    by_cases own : i = n'
    · rw [own] at there
      cases at_.symm.trans there
      rw [none_] at mem
      cases mem
    · exact ⟨i, u, (others i own).symm.trans there, mem⟩

theorem Live.lt {m n : Nat} {k : Ticket} (live : r.Live m n k) : n < (r.state m).tasks.length := by
  obtain ⟨s, at_⟩ : ∃ s, (r.state m).stage? n = some s := by
    rcases live with ⟨t, outcome, there⟩ | ⟨q, hq, p, x, gave, -⟩
    · exact ⟨_, there⟩
    · obtain ⟨s, there, -⟩ := looks_eq_false_of_le hq gave rfl
      exact ⟨s, there⟩
  exact (mem_task_of_stage? at_).1

/-- When two launches of a plugin are alive at once. It takes a shutdown that began between the lookups
of their plugin. And whenever a shutdown begins while a launch is alive, the next caller that asks for
the plugin has it launched once more beside the first. -/
theorem overlaps_across_shutdown (r : History σ l) :
    (∀ m n n' k k', r.Live m n k → r.Live m n' k' → n' ≠ n → k'.capability = k.capability →
      k'.descriptor.id = k.descriptor.id → ∃ a b, r.LooksUp n k a ∧ r.LooksUp n' k' b ∧
        r.closings k.capability a ≠ r.closings k.capability b) ∧
      ∀ i n k kind tag d, r.closings k.capability (i + 1) ≠ r.closings k.capability i →
        r.Live (i + 1) n k →
        ((r.state (i + 1)).registries k.capability).lookup kind tag = .ok (.plugin d) →
        d.id = k.descriptor.id → ∃ r' : History σ l, (∀ j ≤ i + 1, r'.state j = r.state j) ∧
          ∃ n' k', n' ≠ n ∧ k'.capability = k.capability ∧
            k'.descriptor.id = k.descriptor.id ∧
            r'.Live (i + 4) n k ∧ r'.Live (i + 4) n' k' := by
  refine ⟨fun m n n' k k' live live' ne capability id =>
    lookups_apart live live' ne capability id, ?_⟩
  intro i n k kind tag d began live serves id
  -- the shutdown has left no cell, whatever task still starts an instance for an old one
  have absent : ((r.state (i + 1)).registries k.capability).cells.get? d.id = none := by
    rw [r.cells_of_closing began]
    rfl
  obtain ⟨k', t, outcome, capability, descriptor, at_, others⟩ :=
    launch_of_absent (l := l) serves absent
  have prior (j : Nat) (h : j ≤ i + 1) := followed_of_le r
    (findAndGo k.capability kind tag (r.state (i + 1)).tasks.length) h
  rw [← followed_add] at at_
  have others' (m : Nat) (ne : m ≠ (r.state (i + 1)).tasks.length) :=
    (congrArg (fun h => h.stage? m) (followed_add r (i + 1) 3 _)).trans (others m ne)
  exact ⟨_, prior, _, k', (Nat.ne_of_lt live.lt).symm, capability,
    (congrArg PluginDescriptor.id descriptor).trans id,
    live.beside (by omega) prior (Nat.ne_of_lt live.lt) others' at_ rfl, .inl ⟨t, outcome, at_⟩⟩

/-- The start of the task 0 is under way when the task 1 stops all instances. The task 2 asks for the
same plugin afterwards. -/
def relaunch : History Unit (sampleLauncher 1000) :=
  ofScript (sampleLauncher 1000) fresh_sampleHost
    [bindSample, findSample, .go 0, .go 0, stopSample, .go 1, .go 1, findSample, .go 2, .go 2]

/-- Two launches of the plugin are alive at once. -/
theorem not_alone_relaunch : ¬ relaunch.Alone 10 := by
  intro alone
  have same := alone 0 2 _ _ (.inl ⟨_, _, rfl⟩) (.inl ⟨_, _, rfl⟩) rfl rfl
  cases same

/-- In the history above the launches overlap across a shutdown. -/
theorem relaunch_overlaps : (∃ k k' a b, relaunch.LooksUp 0 k a ∧ relaunch.LooksUp 2 k' b ∧
      relaunch.closings k.capability a ≠ relaunch.closings k.capability b) ∧
    ∃ r' : History Unit (sampleLauncher 1000), (∀ j ≤ 7, r'.state j = relaunch.state j) ∧
      ∃ n k k', n ≠ 0 ∧ r'.Live 10 0 k ∧ r'.Live 10 n k' := by
  constructor
  · exact ⟨_, _, (overlaps_across_shutdown relaunch).1 10 0 2 _ _ (.inl ⟨_, _, rfl⟩)
      (.inl ⟨_, _, rfl⟩) (by decide) rfl rfl⟩
  · obtain ⟨r', prior, n, k', ne, -, -, live, live'⟩ := (overlaps_across_shutdown relaunch).2 6 0 _ ""
      sampleType (samplePlugin "a") (by decide) (.inl ⟨_, _, rfl⟩) rfl rfl
    exact ⟨r', prior, n, _, k', ne, live, live'⟩

end History

end PluginKit
