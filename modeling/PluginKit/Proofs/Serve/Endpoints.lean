import PluginKit.Proofs.Effect
import PluginKit.Proofs.Scheme.Bindings
import PluginKit.Serve.Endpoints

/-!
# What endpoints serve and advertise

Endpoints come about over a scheme by serving one prototype after another. Whatever they serve is bound
in their scheme, they have a handler for whatever they serve, and the document in which they describe
themselves lists exactly that.

## Main statements

- `Built.registered`: a type that is served is bound in the scheme.
- `types_of_capabilities`: the document lists the types that are served, in their order.
-/

namespace PluginKit

/-- The entries of a table that was made key by key. -/
theorem Table.get?_of_mapM {κ α ε : Type} [BEq κ] [LawfulBEq κ] {f : κ → Except ε α} {ks : List κ}
    {t : Table κ α} (made : (ks.mapM fun k => do return (k, ← f k)) = .ok t) (k : κ) :
    (k ∈ ks → ∃ a, f k = .ok a ∧ t.get? k = some a) ∧ (k ∉ ks → t.get? k = none) := by
  induction ks generalizing t with
  | nil =>
    rw [List.mapM_nil] at made
    cases made
    exact ⟨fun mem => absurd mem List.not_mem_nil, fun _ => rfl⟩
  | cons j ks ih =>
    rw [List.mapM_cons] at made
    obtain ⟨entry, first, made⟩ := ok_of_bind made
    obtain ⟨a, gave, first⟩ := ok_of_bind first
    obtain ⟨u, rest, made⟩ := ok_of_bind made
    cases first
    cases made
    obtain ⟨inside, outside⟩ := ih rest
    by_cases same : k = j
    · subst same
      refine ⟨fun _ => ⟨a, gave, ?_⟩, fun absent => absurd List.mem_cons_self absent⟩
      rw [get?, List.lookup_cons_self]
    · have later : get? ((j, a) :: u) k = get? u k := by
        rw [get?, List.lookup_cons, beq_eq_false_iff_ne.2 same]
        rfl
      rw [later]
      refine ⟨fun mem => inside (List.mem_of_ne_of_mem same mem), fun absent => outside ?_⟩
      exact fun mem => absent (List.mem_cons_of_mem _ mem)

theorem Table.keys_of_mapM {κ α ε : Type} {f : κ → Except ε α} {ks : List κ} {t : Table κ α}
    (made : (ks.mapM fun k => do return (k, ← f k)) = .ok t) : t.keys = ks := by
  induction ks generalizing t with
  | nil =>
    rw [List.mapM_nil] at made
    cases made
    rfl
  | cons k ks ih =>
    rw [List.mapM_cons] at made
    obtain ⟨entry, first, made⟩ := ok_of_bind made
    obtain ⟨a, -, first⟩ := ok_of_bind first
    obtain ⟨u, rest, made⟩ := ok_of_bind made
    cases first
    cases made
    exact congrArg (k :: ·) (ih rest)

namespace Endpoints

variable {σ : Type} {e e' : Endpoints σ} {c : Capability} {t : TypeId}

/-! ## Building -/

/-- Endpoints that have come about by serving prototypes over a scheme that calls have brought about. -/
inductive Built : Endpoints σ → Prop where
  | empty {s : Scheme} (reachable : s.Reachable) : Built (ofScheme s)
  | served {e e' : Endpoints σ} {kind : String} {h : Handler σ} (before : Built e)
    (done : e.serve kind h = .ok e') : Built e'

/-- When a prototype is served, its types join those that are served for the capability, whose handler
is now the given one. Nothing else changes. -/
theorem serve_eq_ok (consistent : e.scheme.Consistent) {kind : String} {h : Handler σ}
    (done : e.serve kind h = .ok e') :
    ∃ b, e.scheme.kinds.get? kind = some b ∧ e'.scheme = e.scheme ∧
      e'.handlerFor h.capability = some h ∧
      e'.typesFor h.capability = b.types.foldl Scheme.addType (e.typesFor h.capability) ∧
      ∀ c, c ≠ h.capability → e'.typesFor c = e.typesFor c ∧ e'.handlerFor c = e.handlerFor c := by
  obtain ⟨types, listed, done⟩ := ok_of_bind done
  have known : ∃ b, e.scheme.kinds.get? kind = some b ∧ types = b.types := by
    unfold typesOf Scheme.typesOf at listed
    cases found : e.scheme.kinds.get? kind with
    | none =>
      rw [found] at listed
      cases listed
    | some b =>
      rw [found] at listed
      cases listed
      exact ⟨b, rfl, rfl⟩
  obtain ⟨b, known, rfl⟩ := known
  have all : b.types.foldl Scheme.addType [] = b.types :=
    Scheme.foldl_addType_of_nodup (consistent.listed kind b known).2
  have joined {α : Type} (slot : Option (Served α)) (k : α) :
      ((Served.add slot k b.types).map Served.types).getD [] =
        b.types.foldl Scheme.addType ((slot.map Served.types).getD []) := by
    cases slot with
    | none => exact all.symm
    | some s => rfl
  have taken {α : Type} (slot : Option (Served α)) (k : α) (wrap : α → Handler σ) :
      ((Served.add slot k b.types).map fun s => wrap s.handler) = some (wrap k) := by
    cases slot <;> rfl
  -- only the slot of the handler's capability is written
  cases h with
  | resource k =>
    cases done
    refine ⟨b, known, rfl, taken e.resource k .resource, joined e.resource k, fun c other => ?_⟩
    cases c with
    | resourceRepository => exact absurd rfl other
    | digestProcessor => exact ⟨rfl, rfl⟩
    | componentLister => exact ⟨rfl, rfl⟩
  | digest k =>
    cases done
    refine ⟨b, known, rfl, taken e.digest k .digest, joined e.digest k, fun c other => ?_⟩
    cases c with
    | resourceRepository => exact ⟨rfl, rfl⟩
    | digestProcessor => exact absurd rfl other
    | componentLister => exact ⟨rfl, rfl⟩
  | lister k =>
    cases done
    refine ⟨b, known, rfl, taken e.lister k .lister, joined e.lister k, fun c other => ?_⟩
    cases c with
    | resourceRepository => exact ⟨rfl, rfl⟩
    | digestProcessor => exact ⟨rfl, rfl⟩
    | componentLister => exact absurd rfl other

theorem Built.reachable (built : e.Built) : e.scheme.Reachable := by
  induction built with
  | empty reachable => exact reachable
  | served _ done ih =>
    obtain ⟨b, -, scheme, -⟩ := serve_eq_ok ih.consistent done
    rw [scheme]
    exact ih

/-- A type that is served is bound in the scheme. -/
theorem Built.registered (built : e.Built) (served : t ∈ e.typesFor c) :
    e.scheme.isRegistered t = true := by
  induction built with
  | empty reachable =>
    rw [typesFor_ofScheme] at served
    cases served
  | @served e e' kind h before done ih =>
    have consistent := before.reachable.consistent
    obtain ⟨b, known, scheme, -, joined, others⟩ := serve_eq_ok consistent done
    rw [scheme]
    by_cases same : c = h.capability
    · subst same
      rw [joined] at served
      rcases Scheme.mem_foldl_addType.1 served with old | new
      · exact ih old
      · exact Scheme.isRegistered_iff.2 ⟨kind, (consistent.bound_iff t kind).2 ⟨b, known, new⟩⟩
    · rw [(others c same).1] at served
      exact ih served

/-- A type that is served has a name. -/
theorem Built.named (built : e.Built) (served : t ∈ e.typesFor c) : t.isEmpty = false :=
  built.reachable.consistent.named t (built.registered served)

/-- There is a handler for every type that is served. -/
theorem handlerFor_of_mem (served : t ∈ e.typesFor c) : ∃ k, e.handlerFor c = some k := by
  have taken {α : Type} (slot : Option (Served α)) (wrap : α → Handler σ)
      (mem : t ∈ (slot.map Served.types).getD []) :
      ∃ k, (slot.map fun s => wrap s.handler) = some k := by
    cases slot with
    | none => cases mem
    | some s => exact ⟨wrap s.handler, rfl⟩
  cases c with
  | resourceRepository => exact taken e.resource .resource served
  | digestProcessor => exact taken e.digest .digest served
  | componentLister => exact taken e.lister .lister served

/-- There is a handler for a capability if and only if some type is served for it. -/
theorem Built.handlerFor_iff (built : e.Built) :
    (∃ k, e.handlerFor c = some k) ↔ e.typesFor c ≠ [] := by
  induction built with
  | empty reachable => cases c <;> simp [ofScheme, handlerFor, typesFor]
  | @served e e' kind h before done ih =>
    have consistent := before.reachable.consistent
    obtain ⟨b, known, -, handler, joined, others⟩ := serve_eq_ok consistent done
    by_cases same : c = h.capability
    · subst same
      refine ⟨fun _ => ?_, fun _ => ⟨h, handler⟩⟩
      obtain ⟨t, mem⟩ := List.exists_mem_of_ne_nil b.types (consistent.listed kind b known).1
      rw [joined]
      exact List.ne_nil_of_mem (Scheme.mem_foldl_addType.2 (.inr mem))
    · rw [(others c same).1, (others c same).2]
      exact ih

/-! ## Serving one prototype after another -/

/-- Serves prototypes, given by their names, one after another. -/
def serveAll (e : Endpoints σ) : List (String × Handler σ) → Outcome (Endpoints σ)
  | [] => .ok e
  | o :: offers => do (← e.serve o.1 o.2).serveAll offers

/-- The types of the prototypes that are offered for a capability, one prototype after another. -/
def offeredTypes (s : Scheme) (c : Capability) (offers : List (String × Handler σ)) : List TypeId :=
  (offers.filter fun o => o.2.capability == c).flatMap fun o => (s.typesOf o.1).toOption.getD []

theorem Built.serveAll (built : e.Built) {offers : List (String × Handler σ)}
    (made : e.serveAll offers = .ok e') : e'.Built := by
  induction offers generalizing e with
  | nil =>
    cases made
    exact built
  | cons o offers ih =>
    obtain ⟨e₁, first, made⟩ := ok_of_bind made
    exact ih (.served built first) made

/-- Types that are served when others were served before come after these. -/
theorem typesFor_serveAll_after (consistent : e.scheme.Consistent) {offers : List (String × Handler σ)}
    (made : e.serveAll offers = .ok e') {before : Capability → List TypeId}
    (served : ∀ c, e.typesFor c = (before c).eraseDups) :
    e'.scheme = e.scheme ∧
      ∀ c, e'.typesFor c = (before c ++ offeredTypes e.scheme c offers).eraseDups := by
  induction offers generalizing e before with
  | nil =>
    cases made
    refine ⟨rfl, fun c => ?_⟩
    rw [served, offeredTypes, List.filter_nil, List.flatMap_nil, List.append_nil]
  | cons o offers ih =>
    obtain ⟨e₁, first, made⟩ := ok_of_bind made
    obtain ⟨b, known, scheme, -, joined, others⟩ := serve_eq_ok consistent first
    have listed : (e.scheme.typesOf o.1).toOption.getD [] = b.types := by
      rw [Scheme.typesOf, known]
      rfl
    have now (c : Capability) : e₁.typesFor c =
        (before c ++ offeredTypes e.scheme c [o]).eraseDups := by
      by_cases same : c = o.2.capability
      · subst same
        rw [joined, served, Scheme.foldl_addType_eraseDups]
        simp [offeredTypes, listed]
      · rw [(others c same).1, served]
        simp [offeredTypes, Ne.symm same]
    obtain ⟨kept, after⟩ := ih (scheme ▸ consistent) made now
    refine ⟨kept.trans scheme, fun c => ?_⟩
    rw [after, scheme, List.append_assoc]
    simp only [offeredTypes, ← List.flatMap_append, ← List.filter_append, List.singleton_append]

/-- The types that are served are those of the prototypes, each where it first comes. -/
theorem typesFor_serveAll {s : Scheme} (consistent : s.Consistent)
    {offers : List (String × Handler σ)} (made : (ofScheme s).serveAll offers = .ok e) :
    e.scheme = s ∧ ∀ c, e.typesFor c = (offeredTypes s c offers).eraseDups := by
  have nothing (c : Capability) : (ofScheme s : Endpoints σ).typesFor c = ([] : List TypeId).eraseDups :=
    typesFor_ofScheme s c
  exact typesFor_serveAll_after consistent made nothing

/-- A type that is offered is listed by the prototype that it is bound to. -/
theorem lists_of_mem_offeredTypes {s : Scheme} {offers : List (String × Handler σ)}
    (mem : t ∈ offeredTypes s c offers) : ∃ o ∈ offers, s.Lists o.1 t := by
  obtain ⟨o, offered, mem⟩ := List.mem_flatMap.1 mem
  refine ⟨o, (List.mem_filter.1 offered).1, ?_⟩
  unfold Scheme.typesOf at mem
  cases known : s.kinds.get? o.1 with
  | none =>
    rw [known] at mem
    cases mem
  | some b =>
    rw [known] at mem
    exact ⟨b, known, mem⟩

/-! ## Advertising -/

/-- A type that is served has the schema of the prototype that lists it. -/
theorem schemaOf_of_lists (consistent : e.scheme.Consistent) {kind : String} {b : Binding}
    (known : e.scheme.kinds.get? kind = some b) (mem : t ∈ b.types) :
    e.schemaOf t = .ok { type := t, schema := b.schema } := by
  have bound := (consistent.bound_iff t kind).2 ⟨b, known, mem⟩
  have schema : e.scheme.jsonSchema t = .ok b.schema := by
    rw [Scheme.jsonSchema, bound, Option.bind_some, known]
  rw [schemaOf, schema]
  rfl

theorem type_of_schemaOf {s : TypeSchema} (made : e.schemaOf t = .ok s) : s.type = t := by
  unfold schemaOf at made
  cases known : Outcome.ofScheme (e.scheme.jsonSchema t) with
  | error fault =>
    rw [known] at made
    cases made
  | ok schema =>
    rw [known] at made
    cases made
    rfl

/-- Endpoints can describe themselves. -/
theorem Built.exists_capabilities (built : e.Built) : ∃ doc, e.capabilities = .ok doc := by
  have consistent := built.reachable.consistent
  have schemas (c : Capability) : ∃ ss, (e.typesFor c).mapM e.schemaOf = .ok ss := by
    refine exists_mapM fun t served => ?_
    obtain ⟨kind, bound⟩ := Scheme.isRegistered_iff.1 (built.registered served)
    obtain ⟨b, known, mem⟩ := (consistent.bound_iff t kind).1 bound
    exact ⟨_, schemaOf_of_lists consistent known mem⟩
  have entry (c : Capability) : ∃ entry : Capability × List TypeSchema,
      (do return (c, ← (e.typesFor c).mapM e.schemaOf) : Outcome _) = .ok entry := by
    obtain ⟨ss, made⟩ := schemas c
    exact ⟨(c, ss), by rw [made]; rfl⟩
  have entries : ∃ types, ((Capability.all.filter fun c => !(e.typesFor c).isEmpty).mapM fun c => do
      return (c, ← (e.typesFor c).mapM e.schemaOf) : Outcome _) = .ok types :=
    exists_mapM fun c _ => entry c
  obtain ⟨types, listed⟩ := entries
  refine ⟨{ types }, ?_⟩
  rw [capabilities, listed]
  rfl

/-- The document has its entries in the order of the capabilities. -/
theorem ascending_of_capabilities {doc : Capabilities} (made : e.capabilities = .ok doc) :
    doc.types.Ascending := by
  obtain ⟨types, listed, made⟩ := ok_of_bind made
  cases made
  have order : Capability.all.Pairwise fun a b => compare a b = .lt := by decide
  have keys : (Table.keys types).Pairwise fun a b => compare a b = .lt := by
    rw [Table.keys_of_mapM listed]
    exact order.sublist List.filter_sublist
  exact List.pairwise_map.1 keys

/-- The document has an entry for a capability if and only if something is served for it. -/
theorem get?_of_capabilities {doc : Capabilities} (made : e.capabilities = .ok doc) :
    (∃ ss, doc.types.get? c = some ss) ↔ e.typesFor c ≠ [] := by
  obtain ⟨types, listed, made⟩ := ok_of_bind made
  cases made
  obtain ⟨inside, outside⟩ := Table.get?_of_mapM listed c
  constructor
  · rintro ⟨ss, found⟩ nothing
    cases (outside (by simp [nothing])).symm.trans found
  · intro some_
    obtain ⟨ss, -, found⟩ := inside (by simp [some_, Capability.mem_all])
    exact ⟨ss, found⟩

/-- The document lists every type with its own schema. -/
theorem schemaOf_of_capabilities {doc : Capabilities} (made : e.capabilities = .ok doc)
    {s : TypeSchema} (mem : s ∈ doc.typesFor c) : e.schemaOf s.type = .ok s := by
  obtain ⟨types, listed, made⟩ := ok_of_bind made
  cases made
  obtain ⟨inside, outside⟩ := Table.get?_of_mapM listed c
  unfold Capabilities.typesFor at mem
  by_cases there : c ∈ Capability.all.filter fun c => !(e.typesFor c).isEmpty
  · obtain ⟨ss, made, found⟩ := inside there
    rw [found, Option.getD_some] at mem
    obtain ⟨t, -, gives⟩ := exists_of_mem_mapM made mem
    rwa [type_of_schemaOf gives]
  · rw [outside there] at mem
    cases mem

theorem types_of_mapM {ts : List TypeId} {ss : List TypeSchema} (made : ts.mapM e.schemaOf = .ok ss) :
    ss.map TypeSchema.type = ts := by
  induction ts generalizing ss with
  | nil =>
    rw [List.mapM_nil] at made
    cases made
    rfl
  | cons t ts ih =>
    rw [List.mapM_cons] at made
    obtain ⟨s, first, made⟩ := ok_of_bind made
    obtain ⟨rest, others, made⟩ := ok_of_bind made
    cases made
    rw [List.map_cons, type_of_schemaOf first, ih others]

/-- The document lists the types that are served, in their order. -/
theorem types_of_capabilities {doc : Capabilities} (made : e.capabilities = .ok doc)
    (c : Capability) : (doc.typesFor c).map TypeSchema.type = e.typesFor c := by
  obtain ⟨types, listed, made⟩ := ok_of_bind made
  cases made
  obtain ⟨inside, outside⟩ := Table.get?_of_mapM listed c
  unfold Capabilities.typesFor
  cases served : (e.typesFor c).isEmpty with
  | true =>
    -- nothing is served, and there is no entry
    rw [outside (by simp [served]), List.isEmpty_iff.1 served]
    rfl
  | false =>
    obtain ⟨ss, made, found⟩ := inside (by simp [served, Capability.mem_all])
    rw [found, Option.getD_some]
    exact types_of_mapM made

end Endpoints

end PluginKit
