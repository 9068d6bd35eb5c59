import PluginKit.Proofs.Host.Cells
import PluginKit.Proofs.Host.Shutdown
import PluginKit.Proofs.Registry.Bindings

/-!
# Plugins of one name

A type is bound to a plugin as it was found, with its path, its hash and its schemas, but instances are
found by the name of a plugin alone. Of two plugins of one name the one that is asked for first serves
the types of both until the next shutdown.

## Main statements

- `distinct_step`: a cell is for one plugin name and one capability only.
- `same_generation`: the tickets for one cell are for one plugin name and of one generation.
- `served_by_first`: which plugin an instance was started from, and that every type of a plugin of the
  same name is served by it.
- `mistaken_namesake`: a type may be served by another plugin than the one it is bound to.
-/

namespace PluginKit

variable {σ τ : Type} {l : Launcher τ}

namespace Host

variable {h g : Host σ τ}

/-! ## Cells are for one name -/

/-- The cells that are found are there, each for one capability and one plugin name. -/
structure Distinct (h : Host σ τ) : Prop where
  lt : ∀ {c id i}, (h.registries c).cells.get? id = some i → i < h.cells.length
  eq : ∀ {c id c' id' i}, (h.registries c).cells.get? id = some i →
    (h.registries c').cells.get? id' = some i → c' = c ∧ id' = id

theorem size_step (step : Step l h g) : h.cells.length ≤ g.cells.length := by
  rcases step_cases step with kept | ⟨n, s, s', g', -, moves, rfl⟩
  · exact Nat.le_of_eq (by rw [kept.cells])
  · refine Nat.le_of_not_lt fun less => ?_
    obtain ⟨cell, there, -⟩ := moves.cellMoves (List.getElem?_eq_getElem less)
    have bound := (List.getElem?_eq_some_iff.1 there).1
    exact absurd bound (Nat.lt_irrefl _)

/-- A cell that is found was found before, or the task that moved has just looked up its plugin. -/
theorem RegistryMoves.place_cases {c : Capability} {size size' i : Nat} {s s' : Stage σ τ}
    {r r' : Registry σ} {id : PluginId} (m : RegistryMoves c size size' s s' r r')
    (place : r'.cells.get? id = some i) : r.cells.get? id = some i ∨
      i = size ∧ i < size' ∧ ∃ kind tag d, s = .looking c kind tag ∧
        r.lookup kind tag = .ok (.plugin d) ∧ d.id = id := by
  cases m with
  | @placed kind tag k r d sought absent more =>
    by_cases own : id = d.id
    · subst own
      rw [Table.get?_insert_self] at place
      cases place
      exact .inr ⟨rfl, more, kind, tag, d, rfl, sought, rfl⟩
    · exact .inl ((Table.get?_insert_of_ne _ own _).symm.trans place)
  | closed => cases place
  | _ => exact .inl place

theorem distinct_step (step : Step l h g) (distinct : h.Distinct) : g.Distinct := by
  rcases step_cases step with kept | ⟨n, s, s', g', -, moves, rfl⟩
  · refine ⟨fun place => ?_, fun one other => ?_⟩
    · rw [kept.cells]
      exact distinct.lt (kept.places _ ▸ place)
    · exact distinct.eq (kept.places _ ▸ one) (kept.places _ ▸ other)
  · have size := size_step step
    refine ⟨fun place => ?_, fun one other => ?_⟩
    · rcases (moves.registryMoves _).place_cases place with old | ⟨-, lt, -⟩
      · exact Nat.lt_of_lt_of_le (distinct.lt old) size
      · exact lt
    -- a new cell has a number that no other had, and only one task moves in a step
    · have first := (moves.registryMoves _).place_cases one
      have second := (moves.registryMoves _).place_cases other
      rcases first with old | ⟨new, -, kind, tag, d, rfl, sought, rfl⟩ <;>
        rcases second with old' | ⟨new', -, kind', tag', d', same, sought', rfl⟩
      · exact distinct.eq old old'
      · exact absurd (distinct.lt old) (by omega)
      · exact absurd (distinct.lt old') (by omega)
      · cases same
        cases sought.symm.trans sought'
        exact ⟨rfl, rfl⟩

/-- A cell that was in use before is found only where it was. -/
theorem place_of_step (step : Step l h g) {c : Capability} {id : PluginId} {i : Nat}
    (used : i < h.cells.length) (place : (g.registries c).cells.get? id = some i) :
    (h.registries c).cells.get? id = some i := by
  rcases step_cases step with kept | ⟨n, s, s', g', -, moves, rfl⟩
  · exact kept.places _ ▸ place
  · rcases (moves.registryMoves _).place_cases place with old | ⟨new, -⟩
    · exact old
    · omega

end Host

namespace History

open Host

variable {r : History σ l}

theorem distinct (i : Nat) : (r.state i).Distinct := by
  induction i with
  | zero =>
    have none_ {c : Capability} {id : PluginId} {i : Nat} :
        ((r.state 0).registries c).cells.get? id ≠ some i := by
      rw [r.fresh.places]
      exact nofun
    exact ⟨fun place => absurd place none_, fun place => absurd place none_⟩
  | succ i ih => exact distinct_step (r.step i) ih

theorem size_mono {a b : Nat} (h : a ≤ b) :
    (r.state a).cells.length ≤ (r.state b).cells.length := by
  induction h with
  | refl => exact Nat.le_refl _
  | step h ih => exact Nat.le_trans ih (size_step (r.step _))

theorem place_of_le {a b i : Nat} {c : Capability} {id : PluginId} (h : a ≤ b)
    (used : i < (r.state a).cells.length)
    (place : ((r.state b).registries c).cells.get? id = some i) :
    ((r.state a).registries c).cells.get? id = some i := by
  induction h with
  | refl => exact place
  | step h ih => exact ih (place_of_step (r.step _) (Nat.lt_of_lt_of_le used (size_mono h)) place)

/-- As long as a cell is found no shutdown begins. -/
theorem closings_of_place {a b i : Nat} {c : Capability} {id : PluginId} (h : a ≤ b)
    (place : ∀ j, a < j → j ≤ b → ((r.state j).registries c).cells.get? id = some i) :
    r.closings c b = r.closings c a := by
  induction h with
  | refl => rfl
  | @step b h ih =>
    rw [← ih fun j lo hi => place j lo (Nat.le_succ_of_le hi)]
    have there := place (b + 1) (Nat.lt_succ_of_le h) (Nat.le_refl _)
    refine Decidable.byContradiction fun began => ?_
    rw [r.cells_of_closing began] at there
    cases there

/-- The tickets for one cell are for one plugin name and of one generation. -/
theorem same_generation {n n' a b : Nat} {k k' : Ticket} (looks : r.LooksUp n k a)
    (looks' : r.LooksUp n' k' b) (h : a ≤ b) (cell : k'.cell = k.cell) :
    k'.capability = k.capability ∧ k'.descriptor.id = k.descriptor.id ∧
      r.closings k.capability b = r.closings k.capability a := by
  have place := looks.places
  have used := (r.distinct (a + 1)).lt place
  have place' := looks'.places
  rw [cell] at place'
  -- the number was in use since the first lookup, so nobody was given it as a new one
  have since (j : Nat) (lo : a < j) (hi : j ≤ b + 1) :=
    place_of_le hi (Nat.lt_of_lt_of_le used (size_mono lo)) place'
  obtain ⟨capability, id⟩ := (r.distinct (a + 1)).eq place
    (since (a + 1) (Nat.lt_succ_self a) (Nat.succ_le_succ h))
  rw [capability] at since
  exact ⟨capability, id, closings_of_place h fun j lo hi => since j lo (Nat.le_succ_of_le hi)⟩

/-! ## Where an instance comes from -/

/-- A task that has found an instance looked up its cell, in which the instance is. -/
theorem looked_up_of_found {m n i : Nat} {c : Capability}
    (at_ : (r.state m).stage? n = some (.found c (.instance i))) :
    ∃ a < m, ∃ k, r.LooksUp n k a ∧ k.capability = c ∧ k.cell = i ∧
      ∃ rn, (r.state m).running? i = some rn := by
  induction m with
  | zero =>
    rw [stage?, r.fresh.tasks] at at_
    cases at_
  | succ m ih =>
    have later {rn : Running τ} (runs : (r.state m).running? i = some rn) :=
      running_of_le (Nat.le_succ m) runs
    rcases step_task (r.step m) n with same | ⟨-, s, begins, came⟩ | ⟨s, s', g, due, moves, eq, came⟩
    · obtain ⟨a, ha, k, looks, capability, cell, rn, runs⟩ := ih (same.symm.trans at_)
      exact ⟨a, Nat.lt_succ_of_lt ha, k, looks, capability, cell, rn, later runs⟩
    · cases came.symm.trans at_
      cases begins
    · cases came.symm.trans at_
      cases moves with
      | @shared k rn runs =>
        obtain ⟨a, ha, looks⟩ := looksUp_of_ticket due.at_ rfl
        exact ⟨a, Nat.lt_succ_of_lt ha, k, looks, rfl, rfl, rn, later runs⟩
      | @admitted k p x current =>
        obtain ⟨a, ha, looks⟩ := looksUp_of_ticket due.at_ rfl
        refine ⟨a, Nat.lt_succ_of_lt ha, k, looks, rfl, rfl, Running.ofStarted k p x, ?_⟩
        rw [eq]
        exact running_of_admitted (r.orderly m n _ k due.at_ rfl)

end History

/-- The ticket of a task that starts an instance, and the outcome of the launch. -/
def Stage.start? : Stage σ τ → Option (Ticket × Outcome (Started τ))
  | .starting k _ outcome => some (k, outcome)
  | .started k _ x => some (k, .ok x)
  | _ => none

theorem Stage.start?_begins {s : Stage σ τ} (begins : Host.Begins s) : s.start? = none := by
  cases s <;> first | rfl | cases begins

/-- The launcher has started the plugin of a ticket with an outcome. -/
def Launched (l : Launcher τ) (k : Ticket) (outcome : Outcome (Started τ)) : Prop :=
  ∃ count, (l k.descriptor k.capability count).outcome = outcome

theorem Host.Moves.start?_cases {h g : Host σ τ} {n : Nat} {s s' : Stage σ τ} {k : Ticket}
    {outcome : Outcome (Started τ)} (m : Moves l h n s s' g) (has : s'.start? = some (k, outcome)) :
    s.start? = some (k, outcome) ∨ Launched l k outcome := by
  cases m with
  | launched =>
    cases has
    exact .inr ⟨_, rfl⟩
  | returned => exact .inl has
  | _ => cases has

namespace History

open Host

variable {r : History σ l}

theorem launched_of_start {m n : Nat} {s : Stage σ τ} {k : Ticket} {outcome : Outcome (Started τ)}
    (at_ : (r.state m).stage? n = some s) (has : s.start? = some (k, outcome)) :
    Launched l k outcome := by
  induction m generalizing s with
  | zero =>
    rw [stage?, r.fresh.tasks] at at_
    cases at_
  | succ m ih =>
    rcases step_task (r.step m) n with same | ⟨-, s', begins, came⟩ | ⟨t, t', g, due, moves, -, came⟩
    · exact ih (same.symm.trans at_) has
    · cases came.symm.trans at_
      cases (Stage.start?_begins begins).symm.trans has
    · cases came.symm.trans at_
      rcases moves.start?_cases has with had | launched
      · exact ih due.at_ had
      · exact launched

end History

/-! ## What types are bound to -/

namespace Host

variable {h g : Host σ τ}

theorem bound_step (step : Step l h g) {c : Capability} {t : TypeId} {d : PluginDescriptor}
    (bound : (h.registries c).external.get? t = some d) :
    (g.registries c).external.get? t = some d := by
  have change : Change l false h g := .stepped step
  exact (change.rebinds c).keeps.external t d bound

/-- A plugin that is found serves some type that is bound to it. -/
theorem bound_of_lookup {r : Registry σ} {kind : String} {tag : TypeId} {d : PluginDescriptor}
    (found : r.lookup kind tag = .ok (.plugin d)) : ∃ t, r.external.get? t = some d := by
  obtain ⟨u, -, -, first⟩ := Registry.lookup_eq_plugin found
  obtain ⟨t, -, bound⟩ := List.exists_of_findSome?_eq_some first
  exact ⟨t, bound⟩

end Host

namespace History

open Host

variable {r : History σ l}

theorem bound_of_looksUp {n a m : Nat} {k : Ticket} (looks : r.LooksUp n k a) (h : a ≤ m) :
    ∃ t, ((r.state m).registries k.capability).external.get? t = some k.descriptor := by
  obtain ⟨kind, tag, -, sought⟩ := looks.looking
  obtain ⟨t, bound⟩ := bound_of_lookup sought
  refine ⟨t, ?_⟩
  induction h with
  | refl => exact bound
  | step h ih => exact bound_step (r.step _) ih

/-! ## Which plugin serves a type -/

/-- The launcher has started the instance from a plugin: it is connected to the process that this start
has given, and it judges payloads by the schemas of the plugin. -/
def StartedFrom (r : History σ l) (c : Capability) (d : PluginDescriptor) (rn : Running τ) : Prop :=
  ∃ count x, (l d c count).outcome = .ok x ∧
    (∃ q n k, (r.state q).stage? n = some (.started k rn.process x) ∧ k.descriptor = d) ∧
    rn.place = x.place ∧
    rn.client = { plugin := d.id, send := x.send, ids := x.ids, documents := x.documents } ∧
    rn.link = { world := x.world, validator := .ofSchemas (d.schemasFor c) }

/-- An instance was started from a plugin that some task has looked up for its cell. -/
theorem startedFrom_of_running {m i : Nat} {rn : Running τ}
    (runs : (r.state m).running? i = some rn) : ∃ b < m, ∃ n k, r.LooksUp n k b ∧ k.cell = i ∧
      r.StartedFrom k.capability k.descriptor rn := by
  obtain ⟨q, hq, n, k, p, x, gave, cell, rfl⟩ := started_of_running runs
  obtain ⟨b, hb, looks⟩ := looksUp_of_ticket gave rfl
  obtain ⟨count, launched⟩ := launched_of_start gave rfl
  exact ⟨b, Nat.lt_trans hb hq, n, k, looks, cell, count, x, launched, ⟨q, n, k, gave, rfl⟩, rfl, rfl,
    rfl⟩

end History

namespace Host

variable {h : Host σ τ}

theorem running?_joining {c : Capability} {d : PluginDescriptor} {n i : Nat} {rn : Running τ}
    (place : (h.registries c).cells.get? d.id = some i) (runs : h.running? i = some rn) :
    (h.ticket c d).cell = i ∧ (h.joining n c d).running? i = some rn := by
  have found : h.cellOf c d.id = (i, h) := by
    unfold cellOf
    rw [place]
  refine ⟨by rw [ticket, found], ?_⟩
  cases there : h.cells[i]? with
  | none => simp [running?, there] at runs
  | some cell =>
    have same : cell.running = some rn := by simpa [running?, there] using runs
    simp [running?, joining, found, cells_onCell, there, same]

theorem mayGoOn_of_running {n i : Nat} {rn : Running τ} (runs : h.running? i = some rn) :
    h.mayGoOn n i = true := by
  cases there : h.cells[i]? with
  | none => simp [running?, there] at runs
  | some cell =>
    have same : cell.running = some rn := by simpa [running?, there] using runs
    simp [mayGoOn, there, same]

theorem running?_leave {n i : Nat} {rn : Running τ} (runs : h.running? i = some rn) :
    (h.leave n i).running? i = some rn := by
  cases there : h.cells[i]? with
  | none => simp [running?, there] at runs
  | some cell =>
    have same : cell.running = some rn := by simpa [running?, there] using runs
    simp [running?, leave, cells_onCell, there, same]

/-- A task takes the instance that it finds running. -/
theorem shared_of_running {n : Nat} {k : Ticket} {rn : Running τ} (due : h.Due n (.queued k))
    (runs : h.running? k.cell = some rn) :
    Act.goOn l h n = (h.leave n k.cell).onStage n (.found k.capability (.instance k.cell)) := by
  obtain ⟨s, g, moves, went⟩ := moves_next l h n (s := .queued k) (by simp [Stage.rank])
  have started := (Act.goOn_of_due due).trans went
  cases moves with
  | shared => exact started
  | launched idle => cases idle.symm.trans runs

end Host

namespace History

open Host

variable {r : History σ l}

/-- Every instance that is found was started from the plugin that its caller looked up. -/
def ServedByOwn (r : History σ l) : Prop :=
  ∀ m n c i k a rn, (r.state m).stage? n = some (.found c (.instance i)) → r.LooksUp n k a →
    (r.state m).running? i = some rn → r.StartedFrom c k.descriptor rn

/-- A task that looks up a plugin while an instance for its name is running is given this instance. -/
theorem found_while_running {i cell : Nat} {c : Capability} {kind : String} {tag : TypeId}
    {d : PluginDescriptor} {rn : Running τ}
    (serves : ((r.state i).registries c).lookup kind tag = .ok (.plugin d))
    (place : ((r.state i).registries c).cells.get? d.id = some cell)
    (runs : (r.state i).running? cell = some rn) :
    ∃ r' : History σ l, (∀ j ≤ i, r'.state j = r.state j) ∧
      ∃ n k, r'.LooksUp n k (i + 1) ∧ k.descriptor = d ∧
        (r'.state (i + 3)).stage? n = some (.found c (.instance cell)) ∧
        (r'.state (i + 3)).running? cell = some rn := by
  have due : ((r.state i).ask 0 (.looking c kind tag)).2.Due (r.state i).tasks.length
      (.looking c kind tag) := due_ask rfl
  obtain ⟨went, ready, -⟩ := joined_of_serves (l := l) due serves
  obtain ⟨same, runs'⟩ := running?_joining (n := (r.state i).tasks.length)
    (h := ((r.state i).ask 0 (.looking c kind tag)).2) place runs
  rw [← same] at runs'
  have due' := ready (mayGoOn_of_running runs')
  have shared := shared_of_running (l := l) due' runs'
  rw [← went] at shared
  have asked := followed_add r i 1 (findAndGo c kind tag (r.state i).tasks.length)
  have joined := (followed_add r i 2 (findAndGo c kind tag (r.state i).tasks.length)).trans went
  have found := (followed_add r i 3 (findAndGo c kind tag (r.state i).tasks.length)).trans shared
  refine ⟨r.followed i (findAndGo c kind tag (r.state i).tasks.length),
    fun j h => followed_of_le r _ h, (r.state i).tasks.length,
    ((r.state i).ask 0 (.looking c kind tag)).2.ticket c d,
    ⟨⟨kind, tag, ?_, ?_⟩, ?_, ?_⟩, rfl, ?_, ?_⟩
  · rw [asked]
    exact due.at_
  · rw [asked]
    exact serves
  · rw [joined]
    exact due'.at_
  · rw [asked]
    rfl
  · rw [found, ← same, went]
    exact stage?_onStage due'.at_ rfl _
  · rw [found, ← same, went]
    exact running?_leave runs'

/-- The instance that a caller finds was started from a plugin of the same name as the one it looked up,
for which someone has looked in the same generation. It is that very plugin if no type is bound to another
one of its name. But a task that looks up a plugin while an instance for its name is running is given this
instance, whatever plugin it was started from. -/
theorem served_by_first (r : History σ l) :
    (∀ m n c i, (r.state m).stage? n = some (.found c (.instance i)) →
      ∃ a k rn, r.LooksUp n k a ∧ k.capability = c ∧ k.cell = i ∧
        (r.state m).running? i = some rn ∧
        (∃ b n' k', r.LooksUp n' k' b ∧ k'.capability = c ∧
          k'.descriptor.id = k.descriptor.id ∧ r.closings c b = r.closings c a ∧
          r.StartedFrom c k'.descriptor rn) ∧
        ((∀ t d, ((r.state m).registries c).external.get? t = some d →
          d.id = k.descriptor.id → d = k.descriptor) → r.StartedFrom c k.descriptor rn)) ∧
      ∀ i c kind tag d cell rn,
        ((r.state i).registries c).lookup kind tag = .ok (.plugin d) →
        ((r.state i).registries c).cells.get? d.id = some cell →
        (r.state i).running? cell = some rn →
        ∃ r' : History σ l, (∀ j ≤ i, r'.state j = r.state j) ∧
          ∃ n k, r'.LooksUp n k (i + 1) ∧ k.descriptor = d ∧
            (r'.state (i + 3)).stage? n = some (.found c (.instance cell)) ∧
            (r'.state (i + 3)).running? cell = some rn := by
  constructor
  · intro m n c i at_
    obtain ⟨a, ha, k, looks, rfl, rfl, rn, runs⟩ := looked_up_of_found at_
    obtain ⟨b, hb, n', k', looks', cell, started⟩ := startedFrom_of_running runs
    -- the task that has started the instance may have looked before or after this one
    obtain ⟨capability, id, tie⟩ : k'.capability = k.capability ∧
        k'.descriptor.id = k.descriptor.id ∧
        r.closings k.capability b = r.closings k.capability a := by
      rcases Nat.le_total a b with le | le
      · exact same_generation looks looks' le cell
      · obtain ⟨capability, id, tie⟩ := same_generation looks' looks le cell.symm
        exact ⟨capability.symm, id.symm, (capability ▸ tie).symm⟩
    rw [capability] at started
    refine ⟨a, k, rn, looks, rfl, rfl, runs, ⟨b, n', k', looks', capability, id, tie, started⟩, ?_⟩
    intro only
    -- what that task looked up is still bound, so it is the plugin itself if it is the only one
    obtain ⟨t, bound⟩ := bound_of_looksUp looks' (Nat.le_of_lt hb)
    rw [capability] at bound
    rw [only t _ bound id] at started
    exact started
  · intro i c kind tag d cell rn serves place runs
    exact found_while_running serves place runs

/-- Two plugins of one name, each bound to a type of its own. The first type is asked for first. -/
def namesakes : History Unit (sampleLauncher 0) :=
  ofScript (sampleLauncher 0) fresh_sampleHost
    [bindSample, .bind .resourceRepository (samplePlugin "b") otherType, findSample, .go 0, .go 0,
      .go 0, .go 0, .find .resourceRepository "" otherType, .go 1, .go 1]

theorem looksUp_namesakes :
    ∃ k, namesakes.LooksUp 1 k 8 ∧ k.capability = .resourceRepository ∧
      k.descriptor = samplePlugin "b" :=
  ⟨_, ⟨⟨"", otherType, rfl, rfl⟩, rfl, rfl⟩, rfl, rfl⟩

/-- The second type is served by the plugin to which the first one is bound. -/
theorem mistaken_namesake : ¬ namesakes.ServedByOwn := by
  intro own
  obtain ⟨k, looks, -, descriptor⟩ := looksUp_namesakes
  obtain ⟨count, x, outcome, -, place, -⟩ := own 10 1 .resourceRepository 0 k 8 _ rfl looks rfl
  rw [descriptor] at outcome
  cases outcome
  exact absurd (Place.socket.inj place) (by decide)

/-- In the history above the second type can only be given the instance of the first. -/
theorem namesakes_share :
    (∃ a k rn, namesakes.LooksUp 1 k a ∧ (namesakes.state 10).running? 0 = some rn ∧
      ∃ b n' k', namesakes.LooksUp n' k' b ∧
        namesakes.StartedFrom .resourceRepository k'.descriptor rn) ∧
      ∃ r' : History Unit (sampleLauncher 0), (∀ j ≤ 7, r'.state j = namesakes.state j) ∧
        ∃ n k, r'.LooksUp n k 8 ∧ k.descriptor = samplePlugin "b" ∧
          (r'.state 10).stage? n = some (.found .resourceRepository (.instance 0)) := by
  constructor
  · obtain ⟨a, k, rn, looks, -, -, runs, ⟨b, n', k', looks', -, -, -, started⟩, -⟩ :=
      (served_by_first namesakes).1 10 1 .resourceRepository 0 rfl
    exact ⟨a, k, rn, looks, runs, b, n', k', looks', started⟩
  · obtain ⟨r', prior, n, k, looks, descriptor, found, -⟩ := (served_by_first namesakes).2 7
      .resourceRepository "" otherType (samplePlugin "b") 0 _ rfl rfl rfl
    exact ⟨r', prior, n, k, looks, descriptor, found⟩

end History

end PluginKit
