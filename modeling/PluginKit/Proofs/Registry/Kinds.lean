import PluginKit.Proofs.Registry.Bindings

/-!
# Prototypes that are served inside

Types are registered one by one, and a prototype is served inside under the types that its own scheme
lists. A type is looked up together with all its aliases in the scheme of the registry, and any handler
inside the host comes before any plugin. So one type that is served inside stands for its whole
prototype, for those types too that are bound to plugins.

## Main statements

- `lookup_of_inside`, `lookup_of_outside`: what is found for a type, by what its aliases are bound to.
- `accepted_unless_shadowed`: which registrations of plugins take effect.
- `inside_for_good`: a prototype that is served inside is never found outside.
-/

namespace PluginKit

variable {σ τ α : Type}

namespace Registry

variable {r : Registry σ} {kind : String} {tag t u : TypeId} {d : PluginDescriptor}

/-! ## Looking up -/

/-- The type or an alias of it is served inside. -/
def Shadows (r : Registry σ) (t : TypeId) : Prop :=
  ∃ u ∈ t :: r.scheme.aliases t, r.internal.contains u = true

instance (r : Registry σ) (t : TypeId) : Decidable (r.Shadows t) :=
  inferInstanceAs (Decidable (∃ u ∈ t :: r.scheme.aliases t, r.internal.contains u = true))

/-- If a type or an alias of it is served inside, a handler of one of them is found. -/
theorem lookup_of_inside (stands : r.scheme.resolveTag kind tag = .ok t) (inside : r.Shadows t) :
    ∃ u ∈ t :: r.scheme.aliases t, ∃ handler, r.internal.get? u = some handler ∧
      r.lookup kind tag = .ok (.inside handler) := by
  obtain ⟨u, candidate, bound⟩ := inside
  obtain ⟨handler, first⟩ : ∃ handler,
      (t :: r.scheme.aliases t).findSome? r.internal.get? = some handler := by
    cases none_ : (t :: r.scheme.aliases t).findSome? r.internal.get? with
    | some handler => exact ⟨handler, rfl⟩
    | none =>
      rw [Table.contains, List.findSome?_eq_none_iff.1 none_ u candidate] at bound
      cases bound
  obtain ⟨v, candidate, bound⟩ := List.exists_of_findSome?_eq_some first
  exact ⟨v, candidate, handler, bound, by simp only [lookup, stands, first]⟩

/-- If none of them is, the plugin is found that the type is bound to. -/
theorem lookup_of_outside (stands : r.scheme.resolveTag kind tag = .ok t) (outside : ¬r.Shadows t)
    (bound : r.external.get? t = some d) : r.lookup kind tag = .ok (.plugin d) := by
  have none_ : (t :: r.scheme.aliases t).findSome? r.internal.get? = none :=
    List.findSome?_eq_none_iff.2 fun u candidate =>
      contains_eq_false_iff.1 (eq_false_of_ne_true fun inside => outside ⟨u, candidate, inside⟩)
  simp only [lookup, stands, none_, List.findSome?_cons, bound]

theorem resolveTag_of_named (s : Scheme) (kind : String) (named : t.isEmpty = false) :
    s.resolveTag kind t = .ok t := if_neg (by rw [named]; exact Bool.false_ne_true)

/-- A type that is bound to a plugin and not served inside is shadowed by another type of the prototype
that it is bound to. -/
theorem shadows_iff (consistent : r.scheme.Consistent) (outside : r.internal.contains t = false) :
    r.Shadows t ↔ ∃ u k, u ≠ t ∧ r.scheme.kindOf? t = some k ∧ r.scheme.kindOf? u = some k ∧
      r.internal.contains u = true := by
  constructor
  · rintro ⟨u, candidate, inside⟩
    have other : u ≠ t := by
      rintro rfl
      cases outside.symm.trans inside
    have alias_ := (List.mem_cons.1 candidate).resolve_left other
    cases bound : r.scheme.kindOf? t with
    | some k => exact ⟨u, k, other, rfl, ((consistent.aliases_of_bound bound).1 u).1 alias_, inside⟩
    -- an unknown type has no alias but itself
    | none =>
      rw [Scheme.aliases, bound] at alias_
      exact absurd (List.mem_singleton.1 alias_) other
  · rintro ⟨u, k, -, bound, other, inside⟩
    exact ⟨u, List.mem_cons_of_mem _ (((consistent.aliases_of_bound bound).1 u).2 other), inside⟩

/-! ## Judging a registration -/

/-- A plugin is judged by the type alone: it may not be served inside and not be bound to a plugin of
another name. -/
theorem add_isOk_iff : (∃ r', r.add d t = .ok r') ↔
    r.internal.contains t = false ∧ ∀ e, r.external.get? t = some e → e.id = d.id := by
  constructor
  · rintro ⟨r', added⟩
    obtain ⟨outside, ⟨-, e, bound, same⟩ | ⟨free, -⟩⟩ := add_eq_ok added
    · refine ⟨contains_eq_false_iff.2 outside, fun e' bound' => ?_⟩
      cases bound.symm.trans bound'
      exact same
    · refine ⟨contains_eq_false_iff.2 outside, fun e bound => ?_⟩
      cases free.symm.trans bound
  · rintro ⟨outside, only⟩
    cases bound : r.external.get? t with
    | none =>
      refine ⟨{ r with external := r.external.insert t d }, ?_⟩
      simp [add, outside, bound]
    | some e => exact ⟨r, add_twice outside bound (only e bound)⟩

theorem add_of_inside (inside : r.internal.contains t = true) :
    r.add d t = .error (.alreadyRegistered r.capability t insideName) := if_pos inside

end Registry

namespace Host

variable {l : Launcher τ} {unchecked : Bool} {h h' g : Host σ τ} {c : Capability}

/-! ## Registrations that succeed -/

/-- A type that could be bound to a plugin is bound to one of that name from then on. -/
theorem bound_of_run_adding {d : PluginDescriptor} {t : TypeId}
    (accepted : (editing c (Registry.adding d t)).run h = (.ok (), h'))
    (later : Changes l unchecked h' g) :
    ∃ e, (g.registries c).external.get? t = some e ∧ e.id = d.id := by
  rw [run_editing_adding, register] at accepted
  split at accepted
  · next r added =>
    cases accepted
    obtain ⟨e, bound, same⟩ := Registry.bound_of_add added
    refine ⟨e, (later.keeps c).external t e ?_, same⟩
    simpa [onRegistry] using bound
  · cases accepted

/-- A prototype that could be served inside is served under all its types from then on, and it has some
type. -/
theorem served_of_run_servingInside {p : Prototype α} {known : Scheme} (reachable : known.Reachable)
    {handler : Handler σ} {checked : Bool}
    (accepted : (editing c (Registry.servingInside p known handler checked)).run h = (.ok (), h'))
    (later : Changes l unchecked h' g) :
    ∃ t, (g.registries c).internal.get? t = some handler ∧
      (g.registries c).scheme.kindOf? t = some p.name := by
  rw [run_editing_servingInside, register] at accepted
  split at accepted
  · next r served =>
    cases accepted
    obtain ⟨types, scheme, listed, -, learned, made⟩ := Registry.serveInside_eq_ok served
    -- a scheme knows no prototype without types
    obtain ⟨t, mem⟩ : ∃ t, t ∈ types := by
      unfold Scheme.typesOf at listed
      split at listed
      · next b known_ =>
        cases listed
        exact List.exists_mem_of_ne_nil _ (reachable.consistent.listed _ b known_).1
      · cases listed
    have inside := Registry.served_of_serveInside served listed mem
    have bound : r.scheme.kindOf? t = some p.name := by
      rw [made]
      exact (Scheme.kindOf?_registerAll learned t).trans (if_pos mem)
    refine ⟨t, (later.keeps c).internal t handler ?_, (later.keeps c).scheme.kindOf? ?_⟩
    · simpa [onRegistry] using inside
    · simpa [onRegistry] using bound
  · cases accepted

/-! ## What registrations are worth -/

/-- On a host over a scheme that calls have brought about nothing is served inside without a check. A type
with a name has been bound to a plugin. From then on a specification of this type leads to a plugin of
that name, unless the type is shadowed; then it leads to a handler inside. It is shadowed if and only if
another type of the prototype that the scheme of the registry binds it to is served inside. So it never
is if no prototype is served under some of its types only. A registration looks at none of this: it is
judged by the type alone, and refused if this very type is served inside. -/
theorem accepted_unless_shadowed {s : Scheme} (reachable : s.Reachable) {config : ManagerConfig}
    (before : Changes l false (ofScheme s config) h) {d : PluginDescriptor} {t : TypeId}
    (accepted : (editing c (Registry.adding d t)).run h = (.ok (), h'))
    (later : Changes l false h' g) (named : t.isEmpty = false) :
    (∀ kind, if (g.registries c).Shadows t
      then ∃ handler, (g.registries c).lookup kind t = .ok (.inside handler)
      else ∃ e, (g.registries c).lookup kind t = .ok (.plugin e) ∧ e.id = d.id) ∧
    ((g.registries c).Shadows t ↔ ∃ u k, u ≠ t ∧ (g.registries c).scheme.kindOf? t = some k ∧
      (g.registries c).scheme.kindOf? u = some k ∧ (g.registries c).internal.contains u = true) ∧
    ((∀ u v k, (g.registries c).scheme.kindOf? u = some k → (g.registries c).scheme.kindOf? v = some k →
        (g.registries c).internal.contains u = true → (g.registries c).internal.contains v = true) →
      ∀ kind, ∃ e, (g.registries c).lookup kind t = .ok (.plugin e) ∧ e.id = d.id) ∧
    ∀ d' t', (((Registry.adding d' t').run (g.registries c)).1 = .ok () ↔
        (g.registries c).internal.contains t' = false ∧
          ∀ e, (g.registries c).external.get? t' = some e → e.id = d'.id) ∧
      ((g.registries c).internal.contains t' = true → (Registry.adding d' t').run (g.registries c) =
        (.error (.alreadyRegistered (g.registries c).capability t' Registry.insideName),
          g.registries c)) := by
  obtain ⟨e, bound, same⟩ := bound_of_run_adding accepted later
  have added : h' = ((editing c (Registry.adding d t)).run h).2 := by rw [accepted]
  have all : Changes l false (ofScheme s config) g :=
    (before.tail (added ▸ .added c d t)).trans later
  have consistent : (g.registries c).scheme.Consistent :=
    (all.keeps c).scheme.consistent reachable.consistent
  have apart : (g.registries c).Apart := by
    refine all.apart fun t inside => ?_
    cases inside
  have outside : (g.registries c).internal.contains t = false := by
    refine eq_false_of_ne_true fun inside => ?_
    have free := apart t inside
    rw [Table.contains, bound] at free
    cases free
  have shadows := Registry.shadows_iff consistent outside
  have leads (kind : String) (clear : ¬(g.registries c).Shadows t) :
      ∃ e, (g.registries c).lookup kind t = .ok (.plugin e) ∧ e.id = d.id :=
    ⟨e, Registry.lookup_of_outside (Registry.resolveTag_of_named _ kind named) clear bound, same⟩
  refine ⟨fun kind => ?_, shadows, fun whole kind => leads kind fun shadowed => ?_, fun d' t' => ⟨?_, ?_⟩⟩
  · split
    · next shadowed =>
      obtain ⟨-, -, handler, -, found⟩ :=
        Registry.lookup_of_inside (Registry.resolveTag_of_named _ kind named) shadowed
      exact ⟨handler, found⟩
    · next clear => exact leads kind clear
  · obtain ⟨u, k, -, bound_t, bound_u, inside⟩ := shadows.1 shadowed
    cases outside.symm.trans (whole u t k bound_u bound_t inside)
  · rw [Registry.run_adding, ← Registry.add_isOk_iff]
    cases (g.registries c).add d' t' with
    | ok r => exact ⟨fun _ => ⟨r, rfl⟩, fun _ => rfl⟩
    | error fault =>
      constructor
      · intro done
        cases done
      · rintro ⟨r, done⟩
        cases done
  · intro inside
    rw [Registry.run_adding, Registry.add_of_inside inside]
    rfl

theorem reachable_mixed : Scheme.Reachable Scheme.mixed :=
  ⟨false, .merged (.registered (.registered .same _ _) _ _) (.registered .same _ _)⟩

/-- A scheme that knows payloads by the first of their types in `mixed`. -/
def partly : Scheme := ((Scheme.registering Payload.prototype [.versioned "a" "v1"]).run {}).2

/-- A host over `mixed` has bound the other type of payloads to a plugin. -/
def plugged : Host Unit Unit :=
  ((editing .digestProcessor (Registry.adding (History.samplePlugin "p") (.ofName "a"))).run
    (ofScheme Scheme.mixed {})).2

/-- It serves payloads inside after that. -/
def pluggedThenInside : Host Unit Unit :=
  ((editing .digestProcessor
    (Registry.servingInside Payload.prototype partly insideHandler true)).run plugged).2

/-- The plugin is found until payloads are served inside under their first type, and no longer. -/
theorem plugged_then_shadowed :
    (editing .digestProcessor (Registry.adding (History.samplePlugin "p") (.ofName "a"))).run
        (ofScheme Scheme.mixed {}) = (.ok (), plugged) ∧
      (∃ e, (plugged.registries .digestProcessor).lookup "" (.ofName "a") = .ok (.plugin e) ∧
        e.id = (History.samplePlugin "p").id) ∧
      ∃ handler, (pluggedThenInside.registries .digestProcessor).lookup "" (.ofName "a") =
        .ok (.inside handler) := by
  have accepted : (editing .digestProcessor
      (Registry.adding (History.samplePlugin "p") (.ofName "a"))).run (ofScheme Scheme.mixed {}) =
        (.ok (), plugged) := by rfl
  have served : Changes (History.sampleLauncher 0) false plugged pluggedThenInside :=
    .single (.served .digestProcessor Payload.prototype partly insideHandler true (.inl rfl))
  have first := (accepted_unless_shadowed reachable_mixed (l := History.sampleLauncher 0) .refl accepted
    .refl (by decide)).1 ""
  have later := (accepted_unless_shadowed reachable_mixed .refl accepted served (by decide)).1 ""
  have clear : ¬(plugged.registries .digestProcessor).Shadows (.ofName "a") := by decide
  have shadowed : (pluggedThenInside.registries .digestProcessor).Shadows (.ofName "a") := by decide
  rw [if_neg clear] at first
  rw [if_pos shadowed] at later
  exact ⟨accepted, first, later⟩

/-- A host over `mixed` serves payloads inside under the first of their types. -/
def insideFirst : Host Unit Unit :=
  ((editing .digestProcessor
    (Registry.servingInside Payload.prototype partly insideHandler true)).run
      (ofScheme Scheme.mixed {})).2

/-- It accepts a plugin for the other type, which is never asked. -/
theorem alias_accepted_in_vain :
    Scheme.Reachable Scheme.mixed ∧
      Changes (History.sampleLauncher 0) false (ofScheme Scheme.mixed {}) insideFirst ∧
      ∃ h', (editing .digestProcessor
          (Registry.adding (History.samplePlugin "p") (.ofName "a"))).run insideFirst = (.ok (), h') ∧
        (h'.registries .digestProcessor).lookup "" (.ofName "a") = .ok (.inside insideHandler) :=
  ⟨reachable_mixed,
    .single (.served .digestProcessor Payload.prototype partly insideHandler true (.inl rfl)),
    _, rfl, rfl⟩

/-- On a host over a scheme that calls have brought about a prototype has been served inside, with a check
of the plugins or without. From then on a specification with any of its types, those among them that the
registry learns of later, and one of this prototype without a type, leads to a handler inside. This is
found at once and nothing is started, whatever plugins the types are or become bound to. -/
theorem inside_for_good {s known : Scheme} (reachable : s.Reachable) (made : known.Reachable)
    {config : ManagerConfig} (before : Changes l true (ofScheme s config) h) {p : Prototype α}
    {handler : Handler σ} {checked : Bool}
    (accepted : (editing c (Registry.servingInside p known handler checked)).run h = (.ok (), h'))
    (later : Changes l true h' g) {kind : String} {tag : TypeId}
    (of_kind : (g.registries c).scheme.kindOf? tag = some p.name ∨
      tag.isEmpty = true ∧ kind = p.name) :
    ∃ u handler', (g.registries c).scheme.kindOf? u = some p.name ∧
      (g.registries c).internal.get? u = some handler' ∧
      (g.registries c).lookup kind tag = .ok (.inside handler') ∧
      ∀ n, g.next l n (.looking c kind tag) = g.onStage n (.found c (.inside handler')) := by
  obtain ⟨served, inside, known_⟩ := served_of_run_servingInside made accepted later
  have added : h' = ((editing c (Registry.servingInside p known handler checked)).run h).2 := by
    rw [accepted]
  have all : Changes l true (ofScheme s config) g :=
    (before.tail (added ▸ .served c p known handler checked (.inr rfl))).trans later
  have consistent : (g.registries c).scheme.Consistent :=
    (all.keeps c).scheme.consistent reachable.consistent
  -- whichever way it is given, a type of the prototype is looked up
  obtain ⟨t, stands, bound⟩ : ∃ t, (g.registries c).scheme.resolveTag kind tag = .ok t ∧
      (g.registries c).scheme.kindOf? t = some p.name := by
    rcases of_kind with bound | ⟨untagged, rfl⟩
    · have named := consistent.named tag (Scheme.isRegistered_iff.2 ⟨_, bound⟩)
      exact ⟨tag, Registry.resolveTag_of_named _ kind named, bound⟩
    · obtain ⟨t, canonical⟩ := consistent.exists_typeOf_iff.2 ⟨served, known_⟩
      obtain ⟨b, lists, first⟩ := Scheme.typeOf_eq_ok_iff.1 canonical
      exact ⟨t, (if_pos untagged).trans canonical,
        (consistent.bound_iff t _).2 ⟨b, lists, List.mem_of_mem_head? first⟩⟩
  have aliases := (consistent.aliases_of_bound bound).1
  have shadows : (g.registries c).Shadows t :=
    ⟨served, List.mem_cons_of_mem _ ((aliases served).2 known_), by rw [Table.contains, inside]; rfl⟩
  obtain ⟨u, candidate, handler', serves, found⟩ := Registry.lookup_of_inside stands shadows
  refine ⟨u, handler', ?_, serves, found, fun n => ?_⟩
  · rcases List.mem_cons.1 candidate with rfl | alias_
    · exact bound
    · exact (aliases u).1 alias_
  · simp only [next, look, found]

/-- A scheme that knows payloads by a type that `mixed` does not bind. -/
def elsewhere : Scheme := ((Scheme.registering Payload.prototype [.ofName "z"]).run {}).2

/-- The host that serves payloads inside after it has bound one of their types to a plugin learns of one
more type of them. -/
def widened : Host Unit Unit :=
  ((editing .digestProcessor
    (Registry.servingInside Payload.prototype elsewhere insideHandler false)).run pluggedThenInside).2

/-- Payloads of the type that is bound to the plugin, of the new type and without a type lead to handlers
inside. -/
theorem widened_inside :
    (editing .digestProcessor (Registry.servingInside Payload.prototype partly insideHandler true)).run
        plugged = (.ok (), pluggedThenInside) ∧
      (widened.registries .digestProcessor).external.contains (.ofName "a") = true ∧
      ∀ tag ∈ [.ofName "a", .ofName "z", TypeId.empty], ∃ handler,
        (widened.registries .digestProcessor).lookup Payload.prototype.name tag = .ok (.inside handler) ∧
          ∀ n, widened.next (History.sampleLauncher 0) n
            (.looking .digestProcessor Payload.prototype.name tag) =
              widened.onStage n (.found .digestProcessor (.inside handler)) := by
  have accepted : (editing .digestProcessor
      (Registry.servingInside Payload.prototype partly insideHandler true)).run plugged =
        (.ok (), pluggedThenInside) := by rfl
  have before : Changes (History.sampleLauncher 0) true (ofScheme Scheme.mixed {}) plugged :=
    .single (.added .digestProcessor _ _)
  have later : Changes (History.sampleLauncher 0) true pluggedThenInside widened :=
    .single (.served .digestProcessor Payload.prototype elsewhere insideHandler false (.inr rfl))
  have of_kind : ∀ tag ∈ [.ofName "a", .ofName "z", TypeId.empty],
      (widened.registries .digestProcessor).scheme.kindOf? tag = some Payload.prototype.name ∨
        tag.isEmpty = true ∧ Payload.prototype.name = Payload.prototype.name := by decide
  refine ⟨accepted, by rfl, fun tag mem => ?_⟩
  obtain ⟨-, handler, -, -, found, at_once⟩ := inside_for_good reachable_mixed
    ⟨false, .registered .same _ _⟩ before accepted later (of_kind tag mem)
  exact ⟨handler, found, at_once⟩

end Host

end PluginKit
