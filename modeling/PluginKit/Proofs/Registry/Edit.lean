import PluginKit.Host.Basic
import PluginKit.Proofs.Effect
import PluginKit.Proofs.Scheme.Bindings

/-!
# Registries that are changed in place

A registry in use is changed entry by entry, and what is done to it stays done when a fault comes up
later. A handler inside the host is bound in three turns: every type is judged, then the scheme of the
registry learns of the prototype, and only then is the first type bound. All that can fail comes before
all that cannot, so a fault finds the registry as it was.

## Main statements

- `run_adding`: a type bound to a plugin in place is bound as `add` binds it.
- `run_servingInside`: a prototype served in place is served as by `serveInside`, or the registry is
  left alone.
- `add_eq_ok`, `serveInside_eq_ok`: what a registration that succeeds has found and done.
- `run_editing_adding`, `run_editing_servingInside`: the same for the registry of a host.
-/

namespace PluginKit

variable {σ τ α : Type}

namespace Registry

/-! ## Registrations -/

/-- An edit of the scheme of a registry. -/
def onScheme (e : Scheme.Edit) : Effect (Registry σ) Unit := Effect.ofFunction fun r =>
  match e.run r.scheme with
  | (.ok (), scheme) => (.ok (), { r with scheme })
  -- what the edit has done before the fault is not taken back
  | (.error fault, scheme) => (r.refusal fault, { r with scheme })

/-- Binds a type to a handler inside the host without a check. -/
def holding (handler : Handler σ) (r : Registry σ) (t : TypeId) : Registry σ :=
  { r with internal := r.internal.insert t handler }

/-- Binds a type to a plugin in place. -/
def adding (d : PluginDescriptor) (t : TypeId) : Effect (Registry σ) Unit := do
  Effect.check fun r => if r.internal.contains t then r.conflict t insideName else .ok ()
  Effect.check fun r =>
    match r.external.get? t with
    | some e => if e.id = d.id then .ok () else r.conflict t e.id.text
    | none => .ok ()
  -- the first plugin keeps the type
  Effect.change fun r =>
    match r.external.get? t with
    | some _ => r
    | none => { r with external := r.external.insert t d }

/-- Binds every type that a scheme knows of a prototype to a handler inside the host, in place. -/
def servingInside (p : Prototype α) (known : Scheme) (handler : Handler σ) (checked : Bool) :
    Effect (Registry σ) Unit :=
  match known.typesOf p.name with
  | .error e => Effect.check fun r => r.refusal e
  | .ok types => do
    types.forM fun t => Effect.check fun r => r.checkFree checked t
    onScheme (Scheme.registering p types)
    types.forM fun t => Effect.change fun r => r.holding handler t

/-! ## What they do -/

theorem run_adding (d : PluginDescriptor) (t : TypeId) (r : Registry σ) :
    (adding d t).run r = Effect.settled r (r.add d t) := by
  rw [adding, add, Effect.run_bind, Effect.run_check]
  cases inside : r.internal.contains t with
  | true => rfl
  | false =>
    rw [if_neg Bool.false_ne_true, if_neg Bool.false_ne_true]
    simp only [Effect.run_bind, Effect.run_check, Effect.run_change]
    cases bound : r.external.get? t with
    | none => simp only [bound, Effect.settled]
    | some e =>
      by_cases same : e.id = d.id
      · simp only [if_pos same, bound, Effect.settled]
      · simp only [if_neg same, conflict, Effect.settled]

/-- A registration in the scheme of a registry changes the whole of it or nothing. -/
theorem run_onScheme_registering (p : Prototype α) (ts : List TypeId) (r : Registry σ) :
    (onScheme (Scheme.registering p ts)).run r =
      match r.scheme.registerAll p ts with
      | .ok scheme => (.ok (), { r with scheme })
      | .error e => (r.refusal e, r) := by
  rw [onScheme, Effect.run_ofFunction, Scheme.run_registering]
  cases r.scheme.registerAll p ts <;> rfl

/-- Types that are bound one by one are bound as if all at once. -/
theorem foldl_holding (handler : Handler σ) (ts : List TypeId) (r : Registry σ) :
    ts.foldl (holding handler) r =
      { r with internal := ts.foldl (fun t i => t.insert i handler) r.internal } := by
  induction ts generalizing r with
  | nil => rfl
  | cons t ts ih => exact ih (r.holding handler t)

/-- A prototype is served in place, or the registry is left alone: a conflict over any type comes before
the first change, a fault of the scheme before the first type is bound. -/
theorem run_servingInside (p : Prototype α) (known : Scheme) (handler : Handler σ) (checked : Bool)
    (r : Registry σ) :
    (servingInside p known handler checked).run r =
      Effect.settled r (r.serveInside p known handler checked) := by
  unfold servingInside serveInside
  cases known.typesOf p.name with
  | error e => rfl
  | ok types =>
    have judged := Effect.run_forM_check (fun (r : Registry σ) t => r.checkFree checked t) types r
    cases free : types.forM (r.checkFree checked) with
    | error fault =>
      rw [free] at judged
      simp only [free]
      exact Effect.run_bind_error judged
    | ok u =>
      rw [free] at judged
      simp only [free]
      rw [Effect.run_bind_ok judged]
      have learned := run_onScheme_registering p types r
      cases known : r.scheme.registerAll p types with
      | error e =>
        rw [known] at learned
        exact Effect.run_bind_error learned
      | ok scheme =>
        rw [known] at learned
        rw [Effect.run_bind_ok learned, Effect.run_forM_change (holding handler), foldl_holding]
        rfl

/-! ## What has been found and done -/

theorem contains_eq_false_iff {β : Type} {m : Table TypeId β} {t : TypeId} :
    m.contains t = false ↔ m.get? t = none := by
  rw [Table.contains, Option.isSome_eq_false_iff, Option.isNone_iff_eq_none]

/-- A type that could be bound to a plugin is not served inside. It is bound to the same plugin already,
or it was free. -/
theorem add_eq_ok {r r' : Registry σ} {d : PluginDescriptor} {t : TypeId} (h : r.add d t = .ok r') :
    r.internal.get? t = none ∧
      ((r' = r ∧ ∃ e, r.external.get? t = some e ∧ e.id = d.id) ∨
        (r.external.get? t = none ∧ r' = { r with external := r.external.insert t d })) := by
  unfold add at h
  split at h
  · cases h
  · next outside =>
    refine ⟨contains_eq_false_iff.1 (eq_false_of_ne_true outside), ?_⟩
    split at h
    · next e bound =>
      split at h
      · next same =>
        cases h
        exact .inl ⟨rfl, e, bound, same⟩
      · cases h
    · next free =>
      cases h
      exact .inr ⟨free, rfl⟩

/-- A plugin that is found is the first that is bound to what a specification stands for or to an alias
of it, and none of these types is served inside. -/
theorem lookup_eq_plugin {r : Registry σ} {kind : String} {tag : TypeId} {d : PluginDescriptor}
    (found : r.lookup kind tag = .ok (.plugin d)) :
    ∃ t, r.scheme.resolveTag kind tag = .ok t ∧
      (∀ u ∈ t :: r.scheme.aliases t, r.internal.get? u = none) ∧
      (t :: r.scheme.aliases t).findSome? r.external.get? = some d := by
  unfold lookup at found
  split at found
  · cases found
  · next t stands =>
    simp only at found
    split at found
    · cases found
    · next outside =>
      split at found
      · next e first =>
        cases found
        exact ⟨t, stands, List.findSome?_eq_none_iff.1 outside, first⟩
      · cases found

theorem checkFree_eq_ok {r : Registry σ} {checked : Bool} {t : TypeId}
    (h : r.checkFree checked t = .ok ()) :
    r.internal.get? t = none ∧ (checked = true → r.external.get? t = none) := by
  unfold checkFree at h
  split at h
  · cases h
  · next outside =>
    refine ⟨contains_eq_false_iff.1 (eq_false_of_ne_true outside), ?_⟩
    rintro rfl
    split at h
    · cases h
    · next free => exact free

/-- When a prototype could be served inside, every type of it was free, and its scheme has learned of
all of them. -/
theorem serveInside_eq_ok {r r' : Registry σ} {p : Prototype α} {known : Scheme}
    {handler : Handler σ} {checked : Bool} (h : r.serveInside p known handler checked = .ok r') :
    ∃ types scheme, known.typesOf p.name = .ok types ∧
      (∀ t ∈ types, r.internal.get? t = none ∧ (checked = true → r.external.get? t = none)) ∧
      r.scheme.registerAll p types = .ok scheme ∧
      r' = { types.foldl (holding handler) r with scheme } := by
  unfold serveInside at h
  split at h
  · cases h
  · next types listed =>
    cases judged : types.forM (r.checkFree checked) with
    | error fault =>
      rw [judged] at h
      cases h
    | ok u =>
      rw [judged] at h
      cases learned : r.scheme.registerAll p types with
      | error e =>
        simp only [learned] at h
        cases h
      | ok scheme =>
        simp only [learned] at h
        cases h
        refine ⟨types, scheme, listed, ?_, learned, ?_⟩
        · exact fun t mem => checkFree_eq_ok (Scheme.forM_eq_ok_iff.1 judged t mem)
        · rw [foldl_holding]

/-- Which handler serves a type after some have been bound. -/
theorem internal_foldl_holding (handler : Handler σ) (ts : List TypeId) (r : Registry σ)
    (t : TypeId) : (ts.foldl (holding handler) r).internal.get? t =
      if t ∈ ts then some handler else r.internal.get? t := by
  induction ts generalizing r with
  | nil => rfl
  | cons u ts ih =>
    rw [List.foldl_cons, ih, holding]
    by_cases same : t = u
    · subst same
      simp
    · rw [Table.get?_insert_of_ne _ same]
      simp [same]

theorem external_foldl_holding (handler : Handler σ) (ts : List TypeId) (r : Registry σ) :
    (ts.foldl (holding handler) r).external = r.external := by
  rw [foldl_holding]

end Registry

/-! ## The registries of a host -/

namespace Host

/-- An edit of the registry for a capability. -/
def editing (c : Capability) (e : Effect (Registry σ) Unit) : Effect (Host σ τ) Unit :=
  Effect.within (fun h => h.registries c) (fun h r => h.onRegistry c fun _ => r) e

theorem onRegistry_self (h : Host σ τ) (c : Capability) :
    (h.onRegistry c fun _ => h.registries c) = h := by
  have same : (fun d => if d = c then h.registries c else h.registries d) = h.registries := by
    funext d
    split
    · next eq => rw [eq]
    · rfl
  rw [onRegistry, same]

/-- An edit that amounts to an operation on a copy is a registration. -/
theorem run_editing {e : Effect (Registry σ) Unit} {f : Registry σ → Outcome (Registry σ)}
    (settles : ∀ r, e.run r = Effect.settled r (f r)) (h : Host σ τ) (c : Capability) :
    (editing c e).run h = h.register c f := by
  rw [editing, Effect.run_within, settles, register]
  cases f (h.registries c) with
  | ok r => rfl
  | error fault => exact congrArg (Except.error fault, ·) (onRegistry_self h c)

theorem run_editing_adding (h : Host σ τ) (c : Capability) (d : PluginDescriptor) (t : TypeId) :
    (editing c (Registry.adding d t)).run h = h.register c fun r => r.add d t :=
  run_editing (Registry.run_adding d t) h c

theorem run_editing_servingInside (h : Host σ τ) (c : Capability) (p : Prototype α) (known : Scheme)
    (handler : Handler σ) (checked : Bool) :
    (editing c (Registry.servingInside p known handler checked)).run h =
      h.register c fun r => r.serveInside p known handler checked :=
  run_editing (Registry.run_servingInside p known handler checked) h c

end Host

end PluginKit
