import PluginKit.Proofs.Registry.Bindings

/-!
# Plugins that are introduced by their descriptors

A descriptor lists the types that its plugin advertises, and the plugin is registered for one after the
other. Some may be refused, because they are taken. When plugins are registered in no other way, a
plugin is bound to nothing that it does not advertise, and whatever it advertises is taken by someone.

## Main statements

- `Introductions.advertised`: a plugin is bound only to types that it advertises.
- `taken_registerDescriptor`: after its registration all types that a plugin advertises are taken.
- `bindsFirst_registerTypes`: types that are free are bound, and those that are not stay as they are.
- `registerDescriptor_of_clear`: where nothing is in its way, a plugin is bound to all of them.
- `advertised_iff_of_lookup`: a plugin that is found advertises the type of a specification if and only
  if it is bound to this very type.
-/

namespace PluginKit

variable {σ τ : Type} {l : Launcher τ} {unchecked : Bool}

/-! ## Types that are taken -/

namespace Registry

variable {r r' : Registry σ} {d : PluginDescriptor} {t : TypeId}

/-- A type is served inside or bound to a plugin. -/
def Taken (r : Registry σ) (t : TypeId) : Prop :=
  (∃ handler, r.internal.get? t = some handler) ∨ ∃ d, r.external.get? t = some d

/-- A type that is taken stays so. -/
theorem Keeps.taken (keeps : Keeps r r') (taken : r.Taken t) : r'.Taken t := by
  rcases taken with ⟨handler, inside⟩ | ⟨d, bound⟩
  · exact .inl ⟨handler, keeps.internal t handler inside⟩
  · exact .inr ⟨d, keeps.external t d bound⟩

/-- A type that could not be bound to a plugin is taken. -/
theorem taken_of_add_error {fault : Fault} (h : r.add d t = .error fault) : r.Taken t := by
  unfold add at h
  split at h
  · next inside => exact .inl (Option.isSome_iff_exists.1 inside)
  · split at h
    · next e bound => exact .inr ⟨e, bound⟩
    · cases h

end Registry

/-! ## Introductions -/

namespace Host

variable {h g : Host σ τ} {c : Capability} {d : PluginDescriptor} {t : TypeId}

theorem mem_advertised_iff :
    (c, t) ∈ advertised d ↔ t ∈ (d.capabilities.typesFor c).map TypeSchema.type := by
  simp only [advertised, List.mem_flatMap, List.mem_map, Prod.mk.injEq]
  constructor
  · rintro ⟨_, -, s, mem, rfl, type⟩
    exact ⟨s, mem, type⟩
  · rintro ⟨s, mem, type⟩
    exact ⟨c, c.mem_all, s, mem, rfl, type⟩

/-- One change of a host that binds plugins to no other types than they advertise. -/
structure Introduces (l : Launcher τ) (unchecked : Bool) (h g : Host σ τ) : Prop where
  change : Change l unchecked h g
  advertised : ∀ c t d, (g.registries c).external.get? t = some d →
    (h.registries c).external.get? t = some d ∨ (c, t) ∈ advertised d

/-- Any such changes. -/
abbrev Introductions (l : Launcher τ) (unchecked : Bool) : Host σ τ → Host σ τ → Prop :=
  Relation.ReflTransGen (Introduces l unchecked)

theorem Introductions.changes (introductions : Introductions l unchecked h g) :
    Changes l unchecked h g := by
  induction introductions with
  | refl => exact .refl
  | tail _ last ih => exact .tail ih last.change

/-- Bindings that come from introductions are advertised. -/
theorem Introductions.bound (introductions : Introductions l unchecked h g)
    (bound : (g.registries c).external.get? t = some d) :
    (h.registries c).external.get? t = some d ∨ (c, t) ∈ advertised d := by
  induction introductions with
  | refl => exact .inl bound
  | tail _ last ih =>
    rcases last.advertised c t d bound with before | listed
    · exact ih before
    · exact .inr listed

/-- A plugin is bound only to types that it advertises. -/
theorem Introductions.advertised {s : Scheme} {config : ManagerConfig}
    (introductions : Introductions l unchecked (ofScheme s config) h)
    (bound : (h.registries c).external.get? t = some d) : (c, t) ∈ advertised d := by
  rcases introductions.bound bound with before | listed
  · cases before
  · exact listed

/-! ## Registering a descriptor -/

/-- Registering an advertised type is an introduction. -/
theorem introduces_register (listed : (c, t) ∈ advertised d) :
    Introduces l unchecked h (h.register c fun r => r.add d t).2 := by
  refine ⟨.stepped (.bound c d t), ?_⟩
  intro c' t' d' bound
  unfold register at bound
  split at bound
  · next r' done =>
    by_cases same : c' = c
    · subst same
      have bound : r'.external.get? t' = some d' := by simpa [onRegistry] using bound
      obtain ⟨-, ⟨rfl, -⟩ | ⟨-, rfl⟩⟩ := Registry.add_eq_ok done
      · exact .inl bound
      · by_cases type : t' = t
        · subst type
          cases (Table.get?_insert_self _ _ _).symm.trans bound
          exact .inr listed
        · exact .inl ((Table.get?_insert_of_ne _ type d).symm.trans bound)
    · rw [registry_onRegistry h same] at bound
      exact .inl bound
  · exact .inl bound

theorem taken_register : ((h.register c fun r => r.add d t).2.registries c).Taken t := by
  unfold register
  split
  · next r' done =>
    obtain ⟨e, bound, -⟩ := Registry.bound_of_add done
    refine .inr ⟨e, ?_⟩
    simpa [onRegistry] using bound
  · next fault failed => exact Registry.taken_of_add_error failed

theorem introductions_registerTypes {ts : List (Capability × TypeId)}
    (listed : ∀ e ∈ ts, e ∈ advertised d) :
    Introductions l unchecked h (h.registerTypes d ts).2 := by
  induction ts generalizing h with
  | nil => exact .refl
  | cons e ts ih =>
    have first : Introduces l unchecked h (h.register e.1 fun r => r.add d e.2).2 :=
      introduces_register (listed e List.mem_cons_self)
    exact .head first (ih fun e mem => listed e (List.mem_cons_of_mem _ mem))

/-- Registering a descriptor is a number of introductions. -/
theorem introductions_registerDescriptor :
    Introductions l unchecked h (h.registerDescriptor d).2 :=
  introductions_registerTypes fun _ mem => mem

theorem keeps_registerTypes (ts : List (Capability × TypeId)) :
    Registry.Keeps (h.registries c) ((h.registerTypes d ts).2.registries c) := by
  induction ts generalizing h with
  | nil => exact .refl _
  | cons e ts ih =>
    have first : Registry.Rebinds false (h.registries c)
        ((h.register e.1 fun r => r.add d e.2).2.registries c) :=
      rebinds_register (fun _ => Registry.rebinds_add) c
    exact first.keeps.trans ih

theorem taken_registerTypes {ts : List (Capability × TypeId)} (mem : (c, t) ∈ ts) :
    ((h.registerTypes d ts).2.registries c).Taken t := by
  induction ts generalizing h with
  | nil => cases mem
  | cons e ts ih =>
    rcases List.mem_cons.1 mem with rfl | mem
    -- what the first registration takes is kept by the others
    · exact (keeps_registerTypes ts).taken taken_register
    · exact ih mem

/-- After its registration all types that a plugin advertises are taken. -/
theorem taken_registerDescriptor (listed : (c, t) ∈ advertised d) :
    ((h.registerDescriptor d).2.registries c).Taken t :=
  taken_registerTypes listed

/-! ## Registrations on a host without handlers inside -/

/-- A host serves nothing inside. -/
def Outward (h : Host σ τ) : Prop := ∀ c t, (h.registries c).internal.get? t = none

/-- Two hosts before and after registrations: every type that was free has been bound to the plugin that
is picked for it, if there is one. Nothing else has changed in the registries, and no task has been asked
for. -/
structure BindsFirst (h g : Host σ τ) (pick : Capability → TypeId → Option PluginDescriptor) :
    Prop where
  scheme : ∀ c, (g.registries c).scheme = (h.registries c).scheme
  internal : ∀ c, (g.registries c).internal = (h.registries c).internal
  external : ∀ c t,
    (g.registries c).external.get? t = ((h.registries c).external.get? t).or (pick c t)
  fresh : h.Fresh → g.Fresh

theorem BindsFirst.refl (h : Host σ τ) : BindsFirst h h fun _ _ => none :=
  ⟨fun _ => rfl, fun _ => rfl, fun _ _ => Option.or_none.symm, fun fresh => fresh⟩

/-- Of registrations that follow each other the first takes precedence. -/
theorem BindsFirst.trans {k : Host σ τ}
    {pick pick' : Capability → TypeId → Option PluginDescriptor}
    (first : BindsFirst h g pick) (later : BindsFirst g k pick') :
    BindsFirst h k fun c t => (pick c t).or (pick' c t) where
  scheme c := (later.scheme c).trans (first.scheme c)
  internal c := (later.internal c).trans (first.internal c)
  external c t := by rw [later.external, first.external, Option.or_assoc]
  fresh fresh := later.fresh (first.fresh fresh)

theorem BindsFirst.outward {pick : Capability → TypeId → Option PluginDescriptor}
    (binds : BindsFirst h g pick) (outward : h.Outward) : g.Outward := by
  intro c t
  rw [binds.internal]
  exact outward c t

theorem fresh_onRegistry {c : Capability} {external : Table TypeId PluginDescriptor}
    (fresh : h.Fresh) : (h.onRegistry c fun r => { r with external }).Fresh where
  tasks := fresh.tasks
  cells := fresh.cells
  processes := fresh.processes
  tracked d := (field_onRegistry Registry.tracked h (c := c)
    (f := fun r => { r with external }) rfl d).trans (fresh.tracked d)
  generation d := (field_onRegistry Registry.generation h (c := c)
    (f := fun r => { r with external }) rfl d).trans (fresh.generation d)
  places d := (field_onRegistry Registry.cells h (c := c)
    (f := fun r => { r with external }) rfl d).trans (fresh.places d)

theorem bindsFirst_register (outward : h.Outward) (d : PluginDescriptor) (c : Capability)
    (t : TypeId) : BindsFirst h (h.register c fun r => r.add d t).2
      fun c' t' => if (c', t') = (c, t) then some d else none := by
  have outside := Registry.contains_eq_false_iff.2 (outward c t)
  cases bound : (h.registries c).external.get? t with
  | some e =>
    -- the type is bound already: there is a fault or not, but no change
    have kept : (h.register c fun r => r.add d t).2 = h := by
      by_cases same : e.id = d.id
      · simp only [register, Registry.add_twice outside bound same]
        exact onRegistry_self h c
      · simp [register, Registry.add, outside, bound, same, Registry.conflict]
    rw [kept]
    refine ⟨fun _ => rfl, fun _ => rfl, fun c' t' => ?_, fun fresh => fresh⟩
    split
    · next same =>
      cases same
      rw [bound]
      rfl
    · exact Option.or_none.symm
  | none =>
    have changed : (h.register c fun r => r.add d t).2 =
        h.onRegistry c fun r => { r with external := (h.registries c).external.insert t d } := by
      have free : (h.registries c).add d t =
          .ok { h.registries c with external := (h.registries c).external.insert t d } := by
        simp [Registry.add, outside, bound]
      simp only [register, free]
      rw [onRegistry, onRegistry]
      congr 1
      funext c'
      split
      · next same => rw [same]
      · rfl
    rw [changed]
    refine ⟨field_onRegistry Registry.scheme h rfl, field_onRegistry Registry.internal h rfl,
      fun c' t' => ?_, fresh_onRegistry⟩
    by_cases same : c' = c
    · subst same
      simp only [onRegistry, if_pos]
      by_cases type : t' = t
      · subst type
        simp [bound]
      · rw [Table.get?_insert_of_ne _ type]
        simp [type]
    · rw [registry_onRegistry h same]
      simp [same]

theorem bindsFirst_registerTypes (outward : h.Outward) (d : PluginDescriptor)
    (ts : List (Capability × TypeId)) : BindsFirst h (h.registerTypes d ts).2
      fun c t => if (c, t) ∈ ts then some d else none := by
  induction ts generalizing h with
  | nil => exact BindsFirst.refl h
  | cons e ts ih =>
    obtain ⟨c, t⟩ := e
    have first := bindsFirst_register outward d c t
    have both := first.trans (ih (first.outward outward))
    have picks : (fun c' t' => (if (c', t') = (c, t) then some d else none).or
          (if (c', t') ∈ ts then some d else none)) =
        fun c' t' => if (c', t') ∈ (c, t) :: ts then some d else none := by
      funext c' t'
      by_cases same : (c', t') = (c, t)
      · simp [same]
      · rw [if_neg same, Option.none_or]
        simp only [List.mem_cons, same, false_or]
    rw [picks] at both
    exact both

/-! ## Registering without conflicts -/

/-- No type that a plugin advertises is served inside the host or bound to another plugin. -/
structure Clear (h : Host σ τ) (d : PluginDescriptor) : Prop where
  internal : ∀ c t, (h.registries c).internal.get? t = none
  external : ∀ c t e, (h.registries c).external.get? t = some e → e = d

/-- After a plugin has been bound to types, it has these and those that it had before. -/
def Binds (h g : Host σ τ) (d : PluginDescriptor) (ts : List (Capability × TypeId)) : Prop :=
  ∀ c t, (g.registries c).internal.get? t = (h.registries c).internal.get? t ∧
    (g.registries c).external.get? t =
      if (c, t) ∈ ts then some d else (h.registries c).external.get? t

theorem clear_ofScheme (s : Scheme) (config : ManagerConfig) (d : PluginDescriptor) :
    (ofScheme s config : Host σ τ).Clear d :=
  ⟨fun _ _ => rfl, fun _ _ _ bound => nomatch bound⟩

/-- If no type of a plugin is taken, every one of them gets bound to it. -/
theorem Clear.binds {ts : List (Capability × TypeId)} (clear : h.Clear d)
    (first : BindsFirst h g fun c t => if (c, t) ∈ ts then some d else none) : Binds h g d ts := by
  intro c t
  rw [first.internal, first.external]
  refine ⟨rfl, ?_⟩
  cases bound : (h.registries c).external.get? t with
  | none => rw [Option.none_or]
  | some e =>
    cases clear.external c t e bound
    rw [Option.some_or, ite_self]

theorem clear_register (clear : h.Clear d) (c : Capability) (t : TypeId) :
    (h.register c fun r => r.add d t).1 = .ok () ∧ (h.register c fun r => r.add d t).2.Clear d := by
  have outside := Registry.contains_eq_false_iff.2 (clear.internal c t)
  have first := bindsFirst_register clear.internal d c t
  refine ⟨?done, first.outward clear.internal, fun c' u e bound => ?only⟩
  case done =>
    cases bound : (h.registries c).external.get? t with
    | none => simp [register, Registry.add, outside, bound]
    | some e =>
      -- the plugin has the type already
      cases clear.external c t e bound
      simp [register, Registry.add_twice outside bound]
  case only =>
    rw [first.external] at bound
    rcases Option.or_eq_some_iff.1 bound with before | ⟨-, new⟩
    · exact clear.external c' u e before
    · exact (Option.some.inj (Option.ite_none_right_eq_some.1 new).2).symm

theorem registerTypes_of_clear {ts : List (Capability × TypeId)} (clear : h.Clear d) :
    (h.registerTypes d ts).1 = .ok () := by
  induction ts generalizing h with
  | nil => rfl
  | cons e ts ih =>
    obtain ⟨done, clear⟩ := clear_register clear e.1 e.2
    simp only [registerTypes, done, ih clear]

/-- A host that nothing is in the way of binds a plugin to everything that it advertises. -/
theorem registerDescriptor_of_clear (clear : h.Clear d) :
    ∃ g, h.registerDescriptor d = (.ok (), g) ∧ Binds h g d (advertised d) :=
  ⟨_, Prod.ext (registerTypes_of_clear clear) rfl,
    clear.binds (bindsFirst_registerTypes clear.internal d (advertised d))⟩

end Host

/-! ## Looking up -/

/-- A plugin that is found advertises the type of a specification if and only if it is bound to this
very type, provided that it is bound only to what it advertises and that this is taken. -/
theorem Registry.advertised_iff_of_lookup {r : Registry σ} {c : Capability} {kind : String}
    {tag : TypeId} {d : PluginDescriptor}
    (honest : ∀ t, r.external.get? t = some d → (c, t) ∈ Host.advertised d)
    (taken : ∀ t, (c, t) ∈ Host.advertised d → r.Taken t)
    (named : ∀ t, (c, t) ∈ Host.advertised d → t.isEmpty = false)
    (found : r.lookup kind tag = .ok (.plugin d)) :
    (c, tag) ∈ Host.advertised d ↔ r.external.get? tag = some d := by
  refine ⟨fun listed => ?_, honest tag⟩
  obtain ⟨t, stands, outside, first⟩ := lookup_eq_plugin found
  -- a specification with a name stands for its own type, which comes first
  rw [Scheme.resolveTag, named tag listed] at stands
  cases stands
  rcases taken tag listed with ⟨handler, inside⟩ | ⟨e, bound⟩
  · cases (outside tag List.mem_cons_self).symm.trans inside
  · rw [List.findSome?_cons, bound] at first
    rw [bound]
    exact first

end PluginKit
