import PluginKit.Proofs.Host.Script
import PluginKit.Proofs.Registry.Edit

/-!
# What is bound in a registry

A registry keeps three maps: its scheme, the handlers inside the host and the plugins. Types are bound
to plugins, prototypes are served inside, handlers are looked up and plugins are stopped, in any order
and in between each other. What one change does to the three maps is said once, and from it follows what
any number of changes does.

## Main statements

- `Change.rebinds`: what a change of a host does to the maps of a registry.
- `Changes.keeps`: a binding is neither removed nor replaced.
- `bindings_stand`: the above for every registry over a scheme that calls have brought about, together
  with what a call that fails leaves behind.
-/

namespace PluginKit

variable {σ τ α : Type} {l : Launcher τ} {unchecked : Bool}

namespace Registry

variable {r r' r'' : Registry σ} {t : TypeId}

/-! ## One change of the maps -/

/-- The changes of the maps of a registry that one call can make. With `unchecked` the handlers inside the
host may be bound to types that are bound to plugins. -/
inductive Rebinds (unchecked : Bool) (r : Registry σ) : Registry σ → Prop where
  | kept {r' : Registry σ} (scheme : r'.scheme = r.scheme) (internal : r'.internal = r.internal)
    (external : r'.external = r.external) : Rebinds unchecked r r'
  | added {d t} (outside : r.internal.get? t = none) (free : r.external.get? t = none) :
    Rebinds unchecked r { r with external := r.external.insert t d }
  | served {α : Type} {p : Prototype α} {types scheme handler}
    (free : ∀ t ∈ types, r.internal.get? t = none)
    (apart : unchecked = false → ∀ t ∈ types, r.external.get? t = none)
    (learned : r.scheme.registerAll p types = .ok scheme) :
    Rebinds unchecked r { types.foldl (holding handler) r with scheme }

/-- Every type that is served inside is bound in the scheme. -/
def Covered (r : Registry σ) : Prop :=
  ∀ t, r.internal.contains t = true → r.scheme.isRegistered t = true

/-- No type is served inside and by a plugin. -/
def Apart (r : Registry σ) : Prop :=
  ∀ t, r.internal.contains t = true → r.external.contains t = false

/-- The scheme of a registry has come from calls on the earlier one, and all bindings are still there. -/
structure Keeps (r r' : Registry σ) : Prop where
  scheme : r.scheme.Later r'.scheme
  internal : ∀ t handler, r.internal.get? t = some handler → r'.internal.get? t = some handler
  external : ∀ t d, r.external.get? t = some d → r'.external.get? t = some d

theorem Keeps.refl (r : Registry σ) : Keeps r r :=
  ⟨.same, fun _ _ bound => bound, fun _ _ bound => bound⟩

theorem Keeps.trans (first : Keeps r r') (second : Keeps r' r'') : Keeps r r'' where
  scheme := first.scheme.trans second.scheme
  internal t handler bound := second.internal t handler (first.internal t handler bound)
  external t d bound := second.external t d (first.external t d bound)

namespace Rebinds

theorem keeps (m : Rebinds unchecked r r') : Keeps r r' := by
  cases m with
  | kept scheme internal external =>
    constructor
    · rw [scheme]
      exact .same
    · rw [internal]
      exact fun _ _ bound => bound
    · rw [external]
      exact fun _ _ bound => bound
  | @added d u outside free =>
    refine ⟨.same, fun _ _ bound => bound, ?_⟩
    intro t e bound
    -- the type that is bound now was not bound before
    have ne : t ≠ u := by
      rintro rfl
      cases free.symm.trans bound
    exact (Table.get?_insert_of_ne _ ne d).trans bound
  | @served _ p types scheme handler free apart learned =>
    constructor
    · have later := Scheme.Later.registered (s := r.scheme) .same p types
      rw [Scheme.run_registering, learned] at later
      exact later
    · intro t other bound
      have old : t ∉ types := by
        intro mem
        cases (free t mem).symm.trans bound
      refine (internal_foldl_holding handler types r t).trans ?_
      rw [if_neg old]
      exact bound
    · intro t d bound
      exact (congrArg (Table.get? · t) (external_foldl_holding handler types r)).trans bound

theorem covered (m : Rebinds unchecked r r') (h : Covered r) : Covered r' := by
  cases m with
  | kept scheme internal external =>
    intro t inside
    rw [internal] at inside
    rw [scheme]
    exact h t inside
  | added outside free => exact h
  | @served _ p types scheme handler free apart learned =>
    intro t inside
    refine Scheme.isRegistered_iff.2 ?_
    rw [Scheme.kindOf?_registerAll learned]
    by_cases new : t ∈ types
    · exact ⟨p.name, if_pos new⟩
    · rw [if_neg new]
      refine Scheme.isRegistered_iff.1 (h t ?_)
      rw [Table.contains, internal_foldl_holding, if_neg new] at inside
      exact inside

theorem apart (m : Rebinds false r r') (h : Apart r) : Apart r' := by
  cases m with
  | kept scheme internal external =>
    intro t inside
    rw [internal] at inside
    rw [external]
    exact h t inside
  | @added d u outside free =>
    intro t inside
    have ne : t ≠ u := by
      rintro rfl
      rw [Table.contains, outside] at inside
      cases inside
    rw [Table.contains, Table.get?_insert_of_ne _ ne]
    exact h t inside
  | @served _ p types scheme handler free apart learned =>
    intro t inside
    rw [contains_eq_false_iff, external_foldl_holding]
    by_cases new : t ∈ types
    · exact apart rfl t new
    · rw [Table.contains, internal_foldl_holding, if_neg new] at inside
      exact contains_eq_false_iff.1 (h t inside)

end Rebinds

/-! ## Registrations -/

theorem rebinds_add {d : PluginDescriptor} (h : r.add d t = .ok r') : Rebinds unchecked r r' := by
  obtain ⟨outside, ⟨rfl, -⟩ | ⟨free, rfl⟩⟩ := add_eq_ok h
  · exact .kept rfl rfl rfl
  · exact .added outside free

theorem rebinds_serveInside {p : Prototype α} {known : Scheme} {handler : Handler σ} {checked : Bool}
    (allowed : checked = true ∨ unchecked = true)
    (h : r.serveInside p known handler checked = .ok r') : Rebinds unchecked r r' := by
  obtain ⟨types, scheme, -, free, learned, rfl⟩ := serveInside_eq_ok h
  refine .served (fun t mem => (free t mem).1) ?_ learned
  rintro rfl t mem
  exact (free t mem).2 (allowed.resolve_right Bool.false_ne_true)

/-- A type that could be bound to a plugin is bound to one with that name. -/
theorem bound_of_add {d : PluginDescriptor} (h : r.add d t = .ok r') :
    ∃ e, r'.external.get? t = some e ∧ e.id = d.id := by
  obtain ⟨-, ⟨rfl, e, bound, same⟩ | ⟨-, rfl⟩⟩ := add_eq_ok h
  · exact ⟨e, bound, same⟩
  · exact ⟨d, Table.get?_insert_self _ _ _, rfl⟩

/-- When a prototype could be served inside, every type of it is. -/
theorem served_of_serveInside {p : Prototype α} {known : Scheme} {handler : Handler σ}
    {checked : Bool} (h : r.serveInside p known handler checked = .ok r') {types : List TypeId}
    (listed : known.typesOf p.name = .ok types) (mem : t ∈ types) :
    r'.internal.get? t = some handler := by
  obtain ⟨types', scheme, listed', -, -, rfl⟩ := serveInside_eq_ok h
  cases listed.symm.trans listed'
  exact (internal_foldl_holding handler types r t).trans (if_pos mem)

end Registry

/-! ## Changes of a host -/

namespace Host

variable {h g : Host σ τ}

/-- Moves of tasks bind nothing. -/
theorem RegistryMoves.bindings {c : Capability} {size size' : Nat} {s s' : Stage σ τ}
    {r r' : Registry σ} (m : RegistryMoves c size size' s s' r r') :
    r'.scheme = r.scheme ∧ r'.internal = r.internal ∧ r'.external = r.external := by
  cases m <;> exact ⟨rfl, rfl, rfl⟩

/-- One change of a host: a step, or a registration in place. A prototype is served without a check of
the plugins only if that is allowed. -/
inductive Change (l : Launcher τ) (unchecked : Bool) (h : Host σ τ) : Host σ τ → Prop where
  | stepped {g : Host σ τ} (step : Step l h g) : Change l unchecked h g
  | added (c : Capability) (d : PluginDescriptor) (t : TypeId) :
    Change l unchecked h ((editing c (Registry.adding d t)).run h).2
  | served {α : Type} (c : Capability) (p : Prototype α) (known : Scheme) (handler : Handler σ)
    (checked : Bool) (allowed : checked = true ∨ unchecked = true) :
    Change l unchecked h ((editing c (Registry.servingInside p known handler checked)).run h).2

/-- Any changes of a host, failing registrations among them. -/
abbrev Changes (l : Launcher τ) (unchecked : Bool) : Host σ τ → Host σ τ → Prop :=
  Relation.ReflTransGen (Change l unchecked)

theorem rebinds_register {f : Registry σ → Outcome (Registry σ)} {c : Capability}
    (rebinds : ∀ r', f (h.registries c) = .ok r' →
      Registry.Rebinds unchecked (h.registries c) r') (d : Capability) :
    Registry.Rebinds unchecked (h.registries d) ((h.register c f).2.registries d) := by
  unfold register
  split
  · next r' done =>
    by_cases same : d = c
    · subst same
      simpa [onRegistry] using rebinds r' done
    · rw [registry_onRegistry h same]
      exact .kept rfl rfl rfl
  · exact .kept rfl rfl rfl

/-- A change of a host makes one of these changes in the registry for every capability. -/
theorem Change.rebinds (change : Change l unchecked h g) (c : Capability) :
    Registry.Rebinds unchecked (h.registries c) (g.registries c) := by
  cases change with
  | stepped step =>
    cases step with
    | waited => exact .kept rfl rfl rfl
    | asked => exact .kept rfl rfl rfl
    | bound c' d t => exact rebinds_register (fun r' => Registry.rebinds_add) c
    | @turned n s due =>
      obtain ⟨m, -, ready⟩ := due.ready
      obtain ⟨s', g', moves, eq⟩ := moves_next l h n (rank_ne_zero_of_readyAt ready)
      obtain ⟨scheme, internal, external⟩ := (moves.registryMoves c).bindings
      rw [eq, registries_onStage]
      exact .kept scheme internal external
  | added c' d t =>
    rw [run_editing_adding]
    exact rebinds_register (fun r' => Registry.rebinds_add) c
  | served c' p known handler checked allowed =>
    rw [run_editing_servingInside]
    exact rebinds_register (fun r' => Registry.rebinds_serveInside allowed) c

namespace Changes

theorem keeps (changes : Changes l unchecked h g) (c : Capability) :
    Registry.Keeps (h.registries c) (g.registries c) := by
  induction changes with
  | refl => exact .refl _
  | tail _ change ih => exact ih.trans (change.rebinds c).keeps

theorem covered (changes : Changes l unchecked h g) {c : Capability}
    (covered : (h.registries c).Covered) : (g.registries c).Covered := by
  induction changes with
  | refl => exact covered
  | tail _ change ih => exact (change.rebinds c).covered ih

theorem apart (changes : Changes l false h g) {c : Capability} (apart : (h.registries c).Apart) :
    (g.registries c).Apart := by
  induction changes with
  | refl => exact apart
  | tail _ change ih => exact (change.rebinds c).apart ih

end Changes

/-- A registry over a scheme that calls have brought about, after any changes of the host: types that
are bound to plugins, prototypes that are served inside with a check or without, handlers that are
looked up and plugins that are stopped. The scheme of the registry is consistent and has come from calls
on the given one, and it binds every type that is served inside. No later change removes or replaces a
binding. As long as nothing is served without a check, no type is served inside and by a plugin. A
registration that succeeds has bound what it was asked to bind, and one that fails leaves the registry
as it was. -/
theorem bindings_stand {s : Scheme} (reachable : s.Reachable) {config : ManagerConfig}
    (changes : Changes l unchecked (ofScheme s config) h) (c : Capability) :
    ((h.registries c).scheme.Consistent ∧ s.Later (h.registries c).scheme) ∧
      (∀ t, (h.registries c).internal.contains t = true →
        (h.registries c).scheme.isRegistered t = true) ∧
      (∀ g, Changes l true h g →
        (∀ t handler, (h.registries c).internal.get? t = some handler →
          (g.registries c).internal.get? t = some handler) ∧
        ∀ t d, (h.registries c).external.get? t = some d →
          (g.registries c).external.get? t = some d) ∧
      (unchecked = false → ∀ t, (h.registries c).internal.contains t = true →
        (h.registries c).external.contains t = false) ∧
      (∀ d t, match (Registry.adding d t).run (h.registries c) with
        | (.ok (), r) => ∃ e, r.external.get? t = some e ∧ e.id = d.id
        | (.error _, r) => r = h.registries c) ∧
      ∀ (α : Type) (p : Prototype α) known handler checked,
        match (Registry.servingInside p known handler checked).run (h.registries c) with
        | (.ok (), r) => ∀ types, known.typesOf p.name = .ok types →
          ∀ t ∈ types, r.internal.get? t = some handler
        | (.error _, r) => r = h.registries c := by
  have kept := changes.keeps c
  refine ⟨⟨kept.scheme.consistent reachable.consistent, kept.scheme⟩, ?_, ?_, ?_, ?_, ?_⟩
  · exact changes.covered fun t inside => nomatch inside
  · intro g later
    exact ⟨(later.keeps c).internal, (later.keeps c).external⟩
  · rintro rfl
    exact changes.apart fun t inside => nomatch inside
  · intro d t
    rw [Registry.run_adding]
    cases done : (h.registries c).add d t with
    | error fault => rfl
    | ok r => exact Registry.bound_of_add done
  · intro α p known handler checked
    rw [Registry.run_servingInside]
    cases done : (h.registries c).serveInside p known handler checked with
    | error fault => rfl
    | ok r => exact fun types listed t mem => Registry.served_of_serveInside done listed mem

/-- A handler inside the host. -/
def insideHandler : Handler Unit :=
  .digest
    { identity := fun _ => .fail (.notFound "identity")
      process := fun _ _ => .fail (.notFound "resource") }

/-- A scheme in which charts have an identifier that `mixed` gives to payloads, after one of their
own. -/
def disputed : Scheme := ((Scheme.registering Scheme.chart [.ofName "x", .ofName "a"]).run {}).2

/-- Over a scheme of payloads and charts, a plugin was bound to the last identifier of payloads, someone
has asked for it, and charts are served inside. -/
def shared : Host Unit Unit :=
  ((editing .digestProcessor
      (Registry.servingInside Scheme.chart Scheme.mixed insideHandler true)).run
    (ask ((editing .digestProcessor
        (Registry.adding (History.samplePlugin "a") (.ofName "a"))).run (ofScheme Scheme.mixed {})).2
      0 (.looking .digestProcessor "" (.ofName "a"))).2).2

/-- In the host above payloads cannot be served inside because of their last identifier, and charts of
the other scheme cannot because of the scheme alone. Neither call leaves anything behind, and the plugin
keeps its type. -/
theorem bindings_stand_shared :
    Scheme.Reachable Scheme.mixed ∧
      Changes (History.sampleLauncher 0) false (ofScheme Scheme.mixed {}) shared ∧
      (shared.registries .digestProcessor).scheme.isRegistered (.ofName "c") = true ∧
      (shared.registries .digestProcessor).external.contains (.ofName "c") = false ∧
      (∀ g, Changes (History.sampleLauncher 0) true shared g →
        (g.registries .digestProcessor).external.get? (.ofName "a") =
          some (History.samplePlugin "a")) ∧
      ((Registry.servingInside Payload.prototype Scheme.mixed insideHandler true).run
        (shared.registries .digestProcessor)).2 = shared.registries .digestProcessor ∧
      ((Registry.servingInside Scheme.chart disputed insideHandler false).run
        (shared.registries .digestProcessor)).2 = shared.registries .digestProcessor := by
  have reachable : Scheme.Reachable Scheme.mixed :=
    ⟨false, .merged (.registered (.registered .same _ _) _ _) (.registered .same _ _)⟩
  have changes : Changes (History.sampleLauncher 0) false (ofScheme Scheme.mixed {}) shared :=
    .tail (.tail (.tail .refl (.added _ _ _))
        (.stepped (.asked 0 (s := .looking .digestProcessor "" (.ofName "a")) trivial)))
      (.served _ _ _ _ _ (.inl rfl))
  obtain ⟨-, covered, keeps, apart, -, served⟩ := bindings_stand reachable changes .digestProcessor
  have inside : (shared.registries .digestProcessor).internal.contains (.ofName "c") = true := by rfl
  refine ⟨reachable, changes, covered _ inside, apart rfl _ inside, ?_, ?_, ?_⟩
  · exact fun g later => (keeps g later).2 _ _ rfl
  · exact served Payload Payload.prototype Scheme.mixed insideHandler true
  · exact served Payload Scheme.chart disputed insideHandler false

end Host

end PluginKit
