import PluginKit.Proofs.Registry.Precedence

/-!
# Conflicts over types

Plugins are registered by their descriptors, one call after another. A call goes through everything that
a plugin advertises, binds what is free, and goes on after a conflict, but of all its conflicts it
reports only the first. What it reports can be told before the call, from what the types are bound to:
the call itself binds types to its own plugin alone, and these never stand in its way.

## Main statements

- `report_registerTypes`: what a call reports, from the bindings before it.
- `reports_firstClash`: the conflict that comes first, by capabilities and by the order of the document.
- `first_advertiser_kept`: every type is kept by the first plugin that advertises it, and each call reports
  the first type that a plugin of another identifier has.
-/

namespace PluginKit

variable {σ τ : Type}

/-! ## Conflicts -/

/-- The plugins that the types of every capability are bound to. -/
abbrev Owners := Capability → TypeId → Option PluginDescriptor

/-- A type is bound to a plugin of another identifier. -/
def Contested (owners : Owners) (d : PluginDescriptor) (c : Capability) (t : TypeId) : Prop :=
  ∃ o, owners c t = some o ∧ o.id ≠ d.id

/-- The conflict of a plugin that comes first. Nothing that it advertises for an earlier capability is
contested, and nothing that its document lists earlier for the same capability. -/
structure FirstConflict (owners : Owners) (d : PluginDescriptor) (c : Capability) (t : TypeId)
    (o : PluginDescriptor) : Prop where
  owned : owners c t = some o
  other : o.id ≠ d.id
  capabilities : ∀ c' t', c'.index < c.index → d.advertises c' t' = true → ¬Contested owners d c' t'
  types : ∃ before s after, d.capabilities.typesFor c = before ++ s :: after ∧ s.type = t ∧
    ∀ s' ∈ before, ¬Contested owners d c s'.type

/-- The report of registering a plugin: success if no type that it advertises is contested, and otherwise
the conflict that comes first. -/
inductive Reports (owners : Owners) (d : PluginDescriptor) : Outcome Unit → Prop where
  | nothing (clear : ∀ c t, d.advertises c t = true → ¬Contested owners d c t) : Reports owners d (.ok ())
  | conflict {c t o} (first : FirstConflict owners d c t o) :
    Reports owners d (.error (.alreadyRegistered c t o.id.text))

/-- A first conflict is over a type that the plugin advertises. -/
theorem FirstConflict.advertises {owners : Owners} {d o : PluginDescriptor} {c : Capability}
    {t : TypeId} (first : FirstConflict owners d c t o) : d.advertises c t = true := by
  obtain ⟨front, s, back, document, rfl, -⟩ := first.types
  apply List.any_eq_true.2
  refine ⟨s, ?_, beq_self_eq_true _⟩
  simp [document]

/-- An error is reported if and only if something that the plugin advertises is contested. -/
theorem Reports.error_iff {owners : Owners} {d : PluginDescriptor} {report : Outcome Unit}
    (reports : Reports owners d report) : (∃ fault, report = .error fault) ↔
      ∃ c t, d.advertises c t = true ∧ Contested owners d c t := by
  cases reports with
  | nothing clear =>
    constructor
    · rintro ⟨fault, failed⟩
      cases failed
    · rintro ⟨c, t, advertised, contested⟩
      exact absurd contested (clear c t advertised)
  | conflict first =>
    constructor
    · intro _
      exact ⟨_, _, first.advertises, _, first.owned, first.other⟩
    · intro _
      exact ⟨_, rfl⟩

/-- The fault of a plugin over a type. -/
def clash (owners : Owners) (d : PluginDescriptor) (e : Capability × TypeId) : Option Fault :=
  match owners e.1 e.2 with
  | some o => if o.id = d.id then none else some (.alreadyRegistered e.1 e.2 o.id.text)
  | none => none

theorem clash_eq_none_iff {owners : Owners} {d : PluginDescriptor} {c : Capability} {t : TypeId} :
    clash owners d (c, t) = none ↔ ¬Contested owners d c t := by
  unfold clash Contested
  cases owners c t with
  | none => simp
  | some o => simp

theorem clash_eq_some {owners : Owners} {d : PluginDescriptor} {c : Capability} {t : TypeId}
    {fault : Fault} (h : clash owners d (c, t) = some fault) :
    ∃ o, owners c t = some o ∧ o.id ≠ d.id ∧ fault = .alreadyRegistered c t o.id.text := by
  unfold clash at h
  cases owned : owners c t with
  | none => simp [owned] at h
  | some o =>
    by_cases same : o.id = d.id
    · simp [owned, same] at h
    · simp only [owned, if_neg same, Option.some.injEq] at h
      exact ⟨o, rfl, same, h.symm⟩

theorem findSome?_flatMap {α β γ : Type} (f : β → Option γ) (g : α → List β) (xs : List α) :
    (xs.flatMap g).findSome? f = xs.findSome? fun x => (g x).findSome? f := by
  induction xs with
  | nil => rfl
  | cons x xs ih =>
    rw [List.flatMap_cons, List.findSome?_append, List.findSome?_cons, ih]
    cases (g x).findSome? f <;> rfl

/-- The capabilities before one in the list of all of them are those with a smaller index. -/
theorem Capability.mem_of_index_lt {before after : List Capability} {c c' : Capability}
    (split : Capability.all = before ++ c :: after) (less : c'.index < c.index) : c' ∈ before := by
  have ordered : (before ++ c :: after).Pairwise fun a b => a.index < b.index := by
    rw [← split]
    decide
  have listed : c' ∈ before ++ c :: after := split ▸ c'.mem_all
  rcases List.mem_append.1 listed with mem | mem
  · exact mem
  · obtain ⟨-, tail, -⟩ := List.pairwise_append.1 ordered
    rcases List.mem_cons.1 mem with rfl | mem
    · exact absurd less (Nat.lt_irrefl _)
    · exact absurd less (Nat.lt_asymm ((List.pairwise_cons.1 tail).1 c' mem))

/-- The first fault over the types of a plugin is that of its first conflict, and there is none if nothing
is contested. -/
theorem reports_firstClash (owners : Owners) (d : PluginDescriptor) :
    Reports owners d (match (Host.advertised d).findSome? (clash owners d) with
      | some fault => .error fault
      | none => .ok ()) := by
  have listed (c : Capability) {faults : Option Fault}
      (found : ((d.capabilities.typesFor c).map fun s => (c, s.type)).findSome? (clash owners d) =
        faults) :
      (d.capabilities.typesFor c).findSome? (fun s => clash owners d (c, s.type)) = faults := by
    rw [List.findSome?_map] at found
    exact found
  rw [Host.advertised, findSome?_flatMap]
  split
  · next fault found =>
    obtain ⟨before, c, after, split, here, earlier⟩ := List.findSome?_eq_some_iff.1 found
    obtain ⟨front, s, back, document, faulty, passed⟩ := List.findSome?_eq_some_iff.1 (listed c here)
    obtain ⟨o, owned, other, rfl⟩ := clash_eq_some faulty
    apply Reports.conflict
    refine ⟨owned, other, ?_, front, s, back, document, rfl, ?_⟩
    · intro c' t' less advertised
      have none_ := listed c' (earlier c' (Capability.mem_of_index_lt split less))
      obtain ⟨s', mem, type⟩ := List.any_eq_true.1 advertised
      have unclashed := List.findSome?_eq_none_iff.1 none_ s' mem
      rw [beq_iff_eq.1 type] at unclashed
      exact clash_eq_none_iff.1 unclashed
    · intro s' mem
      exact clash_eq_none_iff.1 (passed s' mem)
  · next found =>
    apply Reports.nothing
    intro c t advertised
    have none_ := listed c (List.findSome?_eq_none_iff.1 found c c.mem_all)
    obtain ⟨s, mem, type⟩ := List.any_eq_true.1 advertised
    have unclashed := List.findSome?_eq_none_iff.1 none_ s mem
    rw [beq_iff_eq.1 type] at unclashed
    exact clash_eq_none_iff.1 unclashed

/-! ## What one call reports -/

namespace Host

variable {h g : Host σ τ} {d : PluginDescriptor}

/-- The plugins that the types of a host are bound to. -/
def owners (h : Host σ τ) : Owners := fun c => (h.registries c).external.get?

/-- Every registry knows its capability. -/
def Labelled (h : Host σ τ) : Prop := ∀ c, (h.registries c).capability = c

theorem labelled_register (labelled : h.Labelled) (d : PluginDescriptor) (c : Capability) (t : TypeId) :
    (h.register c fun r => r.add d t).2.Labelled := by
  intro c'
  unfold register
  split
  · next r added =>
    by_cases same : c' = c
    · subst same
      have kept : r.capability = (h.registries c').capability := by
        obtain ⟨-, ⟨rfl, -⟩ | ⟨-, rfl⟩⟩ := Registry.add_eq_ok added <;> rfl
      simp [onRegistry, kept, labelled c']
    · rw [registry_onRegistry h same]
      exact labelled c'
  · exact labelled c'

/-- Registering one type reports the fault of the plugin over it. -/
theorem report_register (labelled : h.Labelled) (outward : h.Outward) (d : PluginDescriptor)
    (c : Capability) (t : TypeId) : (h.register c fun r => r.add d t).1 =
      match clash h.owners d (c, t) with
      | some fault => .error fault
      | none => .ok () := by
  have outside := Registry.contains_eq_false_iff.2 (outward c t)
  simp only [register, Registry.add, outside, clash, owners, Registry.conflict, labelled c]
  cases (h.registries c).external.get? t with
  | none => simp
  | some o => by_cases same : o.id = d.id <;> simp [same]

/-- A plugin does not clash over a type that it is bound to itself. -/
theorem clash_of_bindsFirst (ts : List (Capability × TypeId))
    (binds : BindsFirst h g fun c t => if (c, t) ∈ ts then some d else none) :
    clash g.owners d = clash h.owners d := by
  funext e
  simp only [clash, owners, binds.external]
  cases (h.registries e.1).external.get? e.2 with
  | some o => rfl
  | none =>
    rw [Option.none_or]
    split
    · next o bound =>
      -- the type was free and has been bound just now
      obtain ⟨-, same⟩ := Option.ite_none_right_eq_some.1 bound
      cases same
      simp
    · rfl

/-- A call reports the first fault of the plugin over its types, by the bindings before the call. -/
theorem report_registerTypes (labelled : h.Labelled) (outward : h.Outward) (d : PluginDescriptor)
    (ts : List (Capability × TypeId)) : (h.registerTypes d ts).1 =
      match ts.findSome? (clash h.owners d) with
      | some fault => .error fault
      | none => .ok () := by
  induction ts generalizing h with
  | nil => rfl
  | cons e ts ih =>
    obtain ⟨c, t⟩ := e
    have binds := bindsFirst_register outward d c t
    have first := report_register labelled outward d c t
    have later := ih (labelled_register labelled d c t) (binds.outward outward)
    have same : clash (h.register c fun r => r.add d t).2.owners d = clash h.owners d := by
      apply clash_of_bindsFirst [(c, t)]
      simpa using binds
    rw [same] at later
    simp only [registerTypes, List.findSome?_cons, first, later]
    cases clash h.owners d (c, t) <;> rfl

/-! ## Calls in turn -/

theorem labelled_registerTypes (labelled : h.Labelled) (d : PluginDescriptor)
    (ts : List (Capability × TypeId)) : (h.registerTypes d ts).2.Labelled := by
  induction ts generalizing h with
  | nil => exact labelled
  | cons e ts ih => exact ih (labelled_register labelled d e.1 e.2)

/-- Registers plugins by their descriptors, one call after another. The result is what the calls report
and the host after the last of them. -/
def registerEach (h : Host σ τ) : List PluginDescriptor → List (Outcome Unit) × Host σ τ
  | [] => ([], h)
  | d :: ds =>
    let (report, h) := h.registerDescriptor d
    let (reports, h) := h.registerEach ds
    (report :: reports, h)

theorem registerEach_append (h : Host σ τ) (ds es : List PluginDescriptor) :
    h.registerEach (ds ++ es) =
      ((h.registerEach ds).1 ++ ((h.registerEach ds).2.registerEach es).1,
        ((h.registerEach ds).2.registerEach es).2) := by
  induction ds generalizing h with
  | nil => rfl
  | cons d ds ih => simp [registerEach, ih]

theorem length_registerEach (h : Host σ τ) (ds : List PluginDescriptor) :
    (h.registerEach ds).1.length = ds.length := by
  induction ds generalizing h with
  | nil => rfl
  | cons d ds ih => simp [registerEach, ih]

/-- Registering plugins together leaves the same host as registering them one by one, and counts the calls
that succeed. -/
theorem registerAll_eq (h : Host σ τ) (ds : List PluginDescriptor) :
    h.registerAll ds = ((h.registerEach ds).1.countP Except.isOk, (h.registerEach ds).2) := by
  induction ds generalizing h with
  | nil => rfl
  | cons d ds ih =>
    simp only [registerAll, registerEach, ih, List.countP_cons]
    split <;> rfl

/-- A host that binds no type yet, inside or to a plugin. -/
structure Vacant (h : Host σ τ) : Prop where
  labelled : h.Labelled
  outward : h.Outward
  unbound : ∀ c t, h.owners c t = none

theorem vacant_ofScheme (s : Scheme) (config : ManagerConfig) :
    (ofScheme s config : Host σ τ).Vacant :=
  ⟨fun _ => rfl, fun _ _ => rfl, fun _ _ => rfl⟩

/-- After any calls every type is bound to the first plugin that advertises it. -/
theorem registerEach_leaves (vacant : h.Vacant) (ds : List PluginDescriptor) :
    (h.registerEach ds).2.Labelled ∧ (h.registerEach ds).2.Outward ∧
      (h.registerEach ds).2.owners = firstAdvertiser ds := by
  have binds := bindsFirst_registerAll vacant.outward ds
  rw [registerAll_eq] at binds
  refine ⟨?_, binds.outward vacant.outward, ?_⟩
  · have labelled := vacant.labelled
    clear vacant binds
    induction ds generalizing h with
    | nil => exact labelled
    | cons d ds ih => exact ih (labelled_registerTypes labelled d (advertised d))
  · funext c t
    have bound := binds.external c t
    rw [show (h.registries c).external.get? t = none from vacant.unbound c t, Option.none_or] at bound
    exact bound

theorem mem_registeredTypes_iff {r : Registry σ} {t : TypeId} :
    t ∈ r.registeredTypes ↔ ∃ d, r.external.get? t = some d := by
  rw [Registry.registeredTypes, Table.keys, List.mem_map]
  constructor
  · rintro ⟨e, mem, rfl⟩
    cases bound : r.external.get? e.1 with
    | some d => exact ⟨d, rfl⟩
    | none =>
      have other := List.lookup_eq_none_iff.1 bound e mem
      simp at other
  · rintro ⟨d, bound⟩
    obtain ⟨front, back, split, -⟩ := List.lookup_eq_some_iff.1 bound
    refine ⟨(t, d), ?_, rfl⟩
    simp [split]

/-- Plugins are registered on a host that binds nothing yet. Afterwards the registry of a capability
binds exactly the types that some plugin advertises for this capability, each to the first plugin that
does. And each call on the way reports an error if and only if some type that its plugin advertises was
bound to a plugin of another identifier before the call; the error is the first such conflict. -/
theorem first_advertiser_kept (vacant : h.Vacant) (ds : List PluginDescriptor) :
    (∀ c t, (t ∈ ((h.registerEach ds).2.registries c).registeredTypes ↔
        ∃ d ∈ ds, d.advertises c t = true) ∧
      ((h.registerEach ds).2.registries c).external.get? t = firstAdvertiser ds c t) ∧
    (h.registerEach ds).1.length = ds.length ∧
    ∀ earlier d later, ds = earlier ++ d :: later →
      ∃ report, (h.registerEach ds).1[earlier.length]? = some report ∧
        ((∃ fault, report = .error fault) ↔ ∃ c t, d.advertises c t = true ∧
          Contested (h.registerEach earlier).2.owners d c t) ∧
        Reports (h.registerEach earlier).2.owners d report := by
  have bound (c : Capability) (t : TypeId) :
      ((h.registerEach ds).2.registries c).external.get? t = firstAdvertiser ds c t :=
    congrFun (congrFun (registerEach_leaves vacant ds).2.2 c) t
  refine ⟨?_, length_registerEach h ds, ?_⟩
  · intro c t
    refine ⟨?_, bound c t⟩
    rw [mem_registeredTypes_iff, bound, ← Option.isSome_iff_exists, firstAdvertiser,
      List.find?_isSome]
  · rintro earlier d later rfl
    obtain ⟨labelled, outward, -⟩ := registerEach_leaves vacant earlier
    have first := reports_firstClash (h.registerEach earlier).2.owners d
    rw [← report_registerTypes labelled outward d (advertised d)] at first
    refine ⟨_, ?_, first.error_iff, first⟩
    -- the reports of the earlier calls come before this one
    rw [registerEach_append, List.getElem?_append_right (Nat.le_of_eq (length_registerEach h earlier)),
      length_registerEach, Nat.sub_self]
    rfl

/-- A plugin that advertises types for resources and for digests. -/
def advertiser (id : String) (resources digests : List String) : PluginDescriptor :=
  let listed (names : List String) : List TypeSchema := names.map fun n => { type := .ofName n }
  { id := ⟨id⟩, path := "./" ++ id,
    capabilities := ⟨[(.resourceRepository, listed resources), (.digestProcessor, listed digests)]⟩ }

/-- The second of three plugins conflicts with the first over a digest and, earlier in the order, over a
resource that it lists twice and not first. The third has the identifier of the first. -/
def rivals : List PluginDescriptor :=
  [advertiser "p" ["a"] ["b"], advertiser "q" ["b", "a", "a"] ["c", "b"], advertiser "p" ["a", "d"] ["b"]]

/-- The conflict over the resource is reported, and all else is bound. -/
theorem rivals_kept :
    (ofScheme {} {} : Host Unit Unit).Vacant ∧
      ((ofScheme {} {} : Host Unit Unit).registerEach rivals).1 =
        [.ok (), .error (.alreadyRegistered .resourceRepository (.ofName "a") "p"), .ok ()] ∧
      (∃ report, ((ofScheme {} {} : Host Unit Unit).registerEach rivals).1[1]? = some report ∧
        Reports ((ofScheme {} {} : Host Unit Unit).registerEach [advertiser "p" ["a"] ["b"]]).2.owners
          (advertiser "q" ["b", "a", "a"] ["c", "b"]) report) ∧
      (((ofScheme {} {} : Host Unit Unit).registerEach rivals).2.registries .digestProcessor).external.get?
        (.ofName "c") = some (advertiser "q" ["b", "a", "a"] ["c", "b"]) := by
  have vacant : (ofScheme {} {} : Host Unit Unit).Vacant := vacant_ofScheme {} {}
  obtain ⟨bound, -, reported⟩ := first_advertiser_kept vacant rivals
  obtain ⟨report, second, -, reports⟩ := reported [advertiser "p" ["a"] ["b"]]
    (advertiser "q" ["b", "a", "a"] ["c", "b"]) [advertiser "p" ["a", "d"] ["b"]] rfl
  refine ⟨vacant, rfl, ⟨report, second, reports⟩, ?_⟩
  exact (bound .digestProcessor (.ofName "c")).2.trans rfl

end Host

end PluginKit
