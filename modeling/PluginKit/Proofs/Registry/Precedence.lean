import PluginKit.Proofs.Registry.Introductions

/-!
# Which plugin a type is bound to

Plugins are registered one after another, each for the types that it advertises. A host that serves
nothing inside binds a type to the first plugin that advertises it. A later one is refused, or passed
over without a fault if it has the name of the first.

## Main statements

- `firstAdvertiser_append`: an earlier list takes precedence.
- `bindsFirst_registerAll`: what the types are bound to once plugins have been registered.
- `exists_bound_of_lookup`, `lookup_of_bound`: a plugin that is found is bound to a type that is not
  empty, and is found by it.
-/

namespace PluginKit

variable {σ τ : Type}

/-- Whether a plugin advertises a type for a capability. -/
def PluginDescriptor.advertises (d : PluginDescriptor) (c : Capability) (t : TypeId) : Bool :=
  (d.capabilities.typesFor c).any fun s => s.type == t

theorem PluginDescriptor.advertises_iff {d : PluginDescriptor} {c : Capability} {t : TypeId} :
    d.advertises c t = true ↔ (c, t) ∈ Host.advertised d := by
  rw [Host.mem_advertised_iff, advertises, List.any_eq_true, List.mem_map]
  simp only [beq_iff_eq]

/-- The first of some plugins that advertises a type for a capability. -/
def firstAdvertiser (ds : List PluginDescriptor) (c : Capability) (t : TypeId) :
    Option PluginDescriptor :=
  ds.find? fun d => d.advertises c t

theorem firstAdvertiser_cons (d : PluginDescriptor) (ds : List PluginDescriptor) (c : Capability)
    (t : TypeId) : firstAdvertiser (d :: ds) c t =
      (if (c, t) ∈ Host.advertised d then some d else none).or (firstAdvertiser ds c t) := by
  rw [firstAdvertiser, List.find?_cons]
  by_cases listed : (c, t) ∈ Host.advertised d
  · rw [PluginDescriptor.advertises_iff.2 listed, if_pos listed]
    rfl
  · rw [eq_false_of_ne_true (mt PluginDescriptor.advertises_iff.1 listed), if_neg listed]
    rfl

/-- An earlier list takes precedence. -/
theorem firstAdvertiser_append (ds es : List PluginDescriptor) (c : Capability) (t : TypeId) :
    firstAdvertiser (ds ++ es) c t = (firstAdvertiser ds c t).or (firstAdvertiser es c t) :=
  List.find?_append

theorem mem_of_firstAdvertiser {ds : List PluginDescriptor} {d : PluginDescriptor} {c : Capability}
    {t : TypeId} (first : firstAdvertiser ds c t = some d) : d ∈ ds :=
  List.mem_of_find?_eq_some first

namespace Host

variable {h : Host σ τ}

/-! ## Registering one after another -/

/-- Registering plugins binds every type that is free to the first of them that advertises it. -/
theorem bindsFirst_registerAll (outward : h.Outward) (ds : List PluginDescriptor) :
    BindsFirst h (h.registerAll ds).2 (firstAdvertiser ds) := by
  induction ds generalizing h with
  | nil => exact BindsFirst.refl h
  | cons d ds ih =>
    have first : BindsFirst h (h.registerDescriptor d).2 _ :=
      bindsFirst_registerTypes outward d (advertised d)
    have both := first.trans (ih (first.outward outward))
    have picks : (fun c t => (if (c, t) ∈ advertised d then some d else none).or
        (firstAdvertiser ds c t)) = firstAdvertiser (d :: ds) := by
      funext c t
      exact (firstAdvertiser_cons d ds c t).symm
    rw [picks] at both
    exact both

end Host

/-! ## Looking up -/

/-- A plugin that is found is bound to a type that is not empty. -/
theorem Registry.exists_bound_of_lookup {r : Registry σ} (consistent : r.scheme.Consistent)
    {kind : String} {tag : TypeId} {d : PluginDescriptor}
    (found : r.lookup kind tag = .ok (.plugin d)) :
    ∃ t, t.isEmpty = false ∧ r.external.get? t = some d := by
  obtain ⟨u, stands, -, first⟩ := lookup_eq_plugin found
  obtain ⟨t, candidate, bound⟩ := List.exists_of_findSome?_eq_some first
  refine ⟨t, ?_, bound⟩
  have named : u.isEmpty = false := by
    unfold Scheme.resolveTag at stands
    split at stands
    · obtain ⟨b, known, canonical⟩ := Scheme.typeOf_eq_ok_iff.1 stands
      have lists : r.scheme.Lists kind u := ⟨b, known, List.mem_of_mem_head? canonical⟩
      exact consistent.named u
        (Scheme.isRegistered_iff.2 ⟨kind, (consistent.bound_iff u kind).2 lists⟩)
    · next tagged =>
      cases stands
      exact eq_false_of_ne_true tagged
  rcases List.mem_cons.1 candidate with rfl | alias_
  · exact named
  · cases bound : r.scheme.kindOf? u with
    | some kind' =>
      have bound := ((consistent.aliases_of_bound bound).1 t).1 alias_
      exact consistent.named t (Scheme.isRegistered_iff.2 ⟨kind', bound⟩)
    -- an unknown type has no alias but itself
    | none =>
      rw [Scheme.aliases, bound] at alias_
      cases List.mem_singleton.1 alias_
      exact named

/-- A type that is not empty leads to the plugin that it is bound to, unless it or an alias of it is
served inside. -/
theorem Registry.lookup_of_bound {r : Registry σ} {kind : String} {t : TypeId} {d : PluginDescriptor}
    (named : t.isEmpty = false) (outside : ∀ u, r.internal.get? u = none)
    (bound : r.external.get? t = some d) : r.lookup kind t = .ok (.plugin d) := by
  have inside : (t :: r.scheme.aliases t).findSome? r.internal.get? = none :=
    List.findSome?_eq_none_iff.2 fun u _ => outside u
  simp [lookup, Scheme.resolveTag, named, inside, bound]

end PluginKit
