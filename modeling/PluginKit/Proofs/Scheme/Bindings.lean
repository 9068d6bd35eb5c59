import Mathlib.Logic.Relation
import PluginKit.Proofs.Scheme.Edit

/-!
# What is bound in a scheme

The bindings of a scheme are kept twice, and every registration and every merger writes both. Whatever
the calls, both tell the same: an identifier is bound to a prototype if and only if the prototype lists
it, no prototype lists an identifier twice, and each one that is listed at all has a first identifier,
which it keeps.

## Main statements

- `consistent_bind`, `grows_merge`: what one call does to a consistent scheme.
- `Later.consistent`: a consistent scheme stays consistent, whatever is called on it.
- `Later.typeOf`: a canonical identifier stays canonical.
- `bindings_agree`: the above, for every scheme that calls can bring about.
-/

namespace PluginKit.Scheme

variable {α : Type} {s s' other : Scheme} {kind : String} {t u : TypeId}

/-! ## Consistent schemes -/

/-- A prototype lists an identifier. -/
def Lists (s : Scheme) (kind : String) (t : TypeId) : Prop :=
  ∃ b, s.kinds.get? kind = some b ∧ t ∈ b.types

/-- The two ways in which the bindings are kept agree. -/
structure Consistent (s : Scheme) : Prop where
  /-- An identifier is bound to a prototype if and only if the prototype lists it. -/
  bound_iff : ∀ t kind, s.kindOf? t = some kind ↔ s.Lists kind t
  /-- A prototype that is known lists some identifier, and none twice. -/
  listed : ∀ kind b, s.kinds.get? kind = some b → b.types ≠ [] ∧ b.types.Nodup
  /-- The empty identifier is not bound. -/
  named : ∀ t, s.isRegistered t = true → t.isEmpty = false
  kinds : s.kinds.Ascending
  types : s.types.Ascending

theorem isRegistered_iff : s.isRegistered t = true ↔ ∃ kind, s.kindOf? t = some kind :=
  Option.isSome_iff_exists

/-- A scheme that binds nothing is consistent. -/
theorem consistent_empty (allowsUnknown : Bool) : Consistent { allowsUnknown } where
  bound_iff _ _ := ⟨nofun, fun ⟨_, known, _⟩ => nomatch known⟩
  listed _ _ known := nomatch known
  named _ bound := nomatch bound
  kinds := Table.ascending_nil
  types := Table.ascending_nil

/-! ## Lists of identifiers -/

theorem mem_addType {ts : List TypeId} : u ∈ addType ts t ↔ u ∈ ts ∨ u = t := by
  unfold addType
  split
  · next old =>
    refine ⟨.inl, fun h => h.elim id ?_⟩
    rintro rfl
    exact old
  · rw [List.mem_append, List.mem_singleton]

theorem nodup_addType {ts : List TypeId} (h : ts.Nodup) : (addType ts t).Nodup := by
  unfold addType
  split
  · exact h
  · next new =>
    refine List.nodup_append.2 ⟨h, by simp, fun a mem b single => ?_⟩
    rw [List.mem_singleton.1 single]
    rintro rfl
    exact new mem

theorem head?_addType {ts : List TypeId} (h : ts.head? = some u) :
    (addType ts t).head? = some u := by
  unfold addType
  split
  · exact h
  · rw [List.head?_append, h]
    rfl

theorem mem_foldl_addType {ts new : List TypeId} :
    u ∈ new.foldl addType ts ↔ u ∈ ts ∨ u ∈ new := by
  induction new generalizing ts with
  | nil => simp
  | cons t new ih => rw [List.foldl_cons, ih, mem_addType, List.mem_cons, or_assoc]

theorem nodup_foldl_addType {ts new : List TypeId} (h : ts.Nodup) :
    (new.foldl addType ts).Nodup := by
  induction new generalizing ts with
  | nil => exact h
  | cons t new ih => exact ih (nodup_addType h)

/-- Identifiers that are added to a list join it in the order in which they first come. -/
theorem foldl_addType_eraseDups (ts new : List TypeId) :
    new.foldl addType ts.eraseDups = (ts ++ new).eraseDups := by
  induction new generalizing ts with
  | nil => rw [List.append_nil, List.foldl_nil]
  | cons t new ih =>
    have one : addType ts.eraseDups t = (ts ++ [t]).eraseDups := by
      rw [addType, List.eraseDups_append]
      by_cases old : t ∈ ts
      · simp [old, List.removeAll]
      · simp [old, List.removeAll, List.eraseDups_cons]
    rw [List.foldl_cons, one, ih, List.append_assoc, List.singleton_append]

theorem foldl_addType_of_nodup {ts new : List TypeId} (once : (ts ++ new).Nodup) :
    new.foldl addType ts = ts ++ new := by
  induction new generalizing ts with
  | nil => rw [List.append_nil, List.foldl_nil]
  | cons t new ih =>
    have absent : t ∉ ts := fun old =>
      (List.nodup_append.1 once).2.2 t old t List.mem_cons_self rfl
    rw [List.foldl_cons, addType, if_neg absent, ih, List.append_assoc, List.singleton_append]
    rwa [List.append_assoc, List.singleton_append]

/-- The first identifier of a list stays the first one. -/
theorem head?_foldl_addType {ts new : List TypeId} (h : ts.head? = some u) :
    (new.foldl addType ts).head? = some u := by
  induction new generalizing ts with
  | nil => exact h
  | cons t new ih => exact ih (head?_addType h)

/-! ## One binding -/

theorem get?_foldl_insert (ts : List TypeId) (m : Table TypeId String) (t : TypeId) :
    (ts.foldl (fun m t => m.insert t kind) m).get? t = if t ∈ ts then some kind else m.get? t := by
  induction ts generalizing m with
  | nil => rfl
  | cons u ts ih =>
    rw [List.foldl_cons, ih]
    by_cases same : t = u
    · subst same
      simp
    · rw [Table.get?_insert_of_ne _ same]
      simp [same]

/-- The prototype that an identifier is bound to after some have been bound. -/
theorem kindOf?_bind (s : Scheme) (kind : String) (schema : Json) (ts : List TypeId) (t : TypeId) :
    (s.bind kind schema ts).kindOf? t = if t ∈ ts then some kind else s.kindOf? t :=
  get?_foldl_insert ts s.types t

/-- The identifiers of a prototype after some have been bound to it. -/
theorem kinds_bind_self (s : Scheme) (kind : String) (schema : Json) (ts : List TypeId) :
    ∃ b, (s.bind kind schema ts).kinds.get? kind = some b ∧
      b.types = ts.foldl addType (((s.kinds.get? kind).map Binding.types).getD []) := by
  refine ⟨_, Table.get?_insert_self _ _ _, ?_⟩
  cases s.kinds.get? kind <;> rfl

theorem kinds_bind_of_ne (s : Scheme) {k : String} (ne : k ≠ kind) (schema : Json)
    (ts : List TypeId) : (s.bind kind schema ts).kinds.get? k = s.kinds.get? k :=
  Table.get?_insert_of_ne _ ne _

theorem lists_iff : s.Lists kind t ↔ t ∈ ((s.kinds.get? kind).map Binding.types).getD [] := by
  unfold Lists
  cases s.kinds.get? kind <;> simp

theorem lists_bind (s : Scheme) (kind k : String) (schema : Json) (ts : List TypeId) (t : TypeId) :
    (s.bind kind schema ts).Lists k t ↔ s.Lists k t ∨ (k = kind ∧ t ∈ ts) := by
  by_cases same : k = kind
  · subst same
    obtain ⟨b, known, types⟩ := s.kinds_bind_self k schema ts
    rw [lists_iff, known, Option.map_some, Option.getD_some, types, mem_foldl_addType, ← lists_iff]
    simp
  · rw [lists_iff, kinds_bind_of_ne s same, ← lists_iff]
    simp [same]

/-- Identifiers that are not bound to anything else are bound consistently. -/
theorem consistent_bind (h : s.Consistent) {ts : List TypeId} (some_ : ts ≠ [])
    (named : ∀ t ∈ ts, t.isEmpty = false)
    (free : ∀ t ∈ ts, ∀ k, s.kindOf? t = some k → k = kind) (schema : Json) :
    (s.bind kind schema ts).Consistent where
  bound_iff t k := by
    rw [kindOf?_bind, lists_bind, ← h.bound_iff]
    split
    · next new =>
      refine ⟨fun same => .inr ⟨(Option.some.inj same).symm, new⟩, ?_⟩
      rintro (old | ⟨rfl, -⟩)
      · rw [free t new k old]
      · rfl
    · next other => simp [other]
  listed k b known := by
    by_cases same : k = kind
    · subst same
      obtain ⟨b', known', types⟩ := s.kinds_bind_self k schema ts
      cases known.symm.trans known'
      rw [types]
      refine ⟨?_, nodup_foldl_addType ?_⟩
      · obtain ⟨t, new⟩ := List.exists_mem_of_ne_nil ts some_
        exact List.ne_nil_of_mem (mem_foldl_addType.2 (.inr new))
      · cases old : s.kinds.get? k with
        | none => exact List.nodup_nil
        | some b'' => exact (h.listed k b'' old).2
    · rw [kinds_bind_of_ne s same] at known
      exact h.listed k b known
  named t bound := by
    obtain ⟨k, bound⟩ := isRegistered_iff.1 bound
    rw [kindOf?_bind] at bound
    split at bound
    · next new => exact named t new
    · exact h.named t (isRegistered_iff.2 ⟨k, bound⟩)
  kinds := Table.ascending_insert h.kinds _ _
  types := by
    have ascends := Table.ascending_foldl_insert (ts.map fun t => (t, kind)) h.types
    rwa [List.foldl_map] at ascends

/-! ## Judgements -/

theorem forM_eq_ok_iff {ε β : Type} {f : β → Except ε Unit} {xs : List β} :
    xs.forM f = .ok () ↔ ∀ x ∈ xs, f x = .ok () := by
  induction xs with
  | nil => exact ⟨fun _ => nofun, fun _ => rfl⟩
  | cons x xs ih =>
    rw [List.forM_eq_forM, List.forM_cons, List.forall_mem_cons, ← ih]
    cases f x with
    | error e => exact ⟨nofun, nofun⟩
    | ok u => exact ⟨fun h => ⟨rfl, h⟩, fun h => h.2⟩

theorem checkBinding_eq_ok_iff :
    s.checkBinding kind t = .ok () ↔ ∀ k, s.kindOf? t = some k → k = kind := by
  unfold checkBinding
  cases s.kindOf? t with
  | none => simp
  | some k => by_cases same : k = kind <;> simp [same]

theorem checkType_eq_ok_iff : s.checkType kind t = .ok () ↔
    t.isEmpty = false ∧ ∀ k, s.kindOf? t = some k → k = kind := by
  unfold checkType
  cases t.isEmpty with
  | false => simpa using checkBinding_eq_ok_iff
  | true => simp

/-! ## How schemes grow -/

/-- One prototype is given identifiers that are not bound to another one. -/
inductive Grows (s : Scheme) : Scheme → Prop where
  | binds {kind : String} {ts : List TypeId} (schema : Json) (some_ : ts ≠ [])
    (named : ∀ t ∈ ts, t.isEmpty = false)
    (free : ∀ t ∈ ts, ∀ k, s.kindOf? t = some k → k = kind) : Grows s (s.bind kind schema ts)

theorem Grows.consistent (grows : Grows s s') (h : s.Consistent) : s'.Consistent := by
  cases grows with
  | binds schema some_ named free => exact consistent_bind h some_ named free schema

theorem typeOf_eq_ok_iff : s.typeOf kind = .ok t ↔
    ∃ b, s.kinds.get? kind = some b ∧ b.types.head? = some t := by
  unfold typeOf
  rcases s.kinds.get? kind with _ | ⟨schema, _ | ⟨t', ts⟩⟩ <;> simp

/-- A canonical identifier stays canonical when a prototype is given more identifiers. -/
theorem Grows.typeOf (grows : Grows s s') (h : s.typeOf kind = .ok t) : s'.typeOf kind = .ok t := by
  obtain ⟨b, known, first⟩ := typeOf_eq_ok_iff.1 h
  cases grows with
  | @binds k ts schema =>
    by_cases same : kind = k
    · subst same
      obtain ⟨b', known', types⟩ := s.kinds_bind_self kind schema ts
      refine typeOf_eq_ok_iff.2 ⟨b', known', ?_⟩
      rw [types, known]
      exact head?_foldl_addType first
    · exact typeOf_eq_ok_iff.2 ⟨b, (kinds_bind_of_ne s same schema ts).trans known, first⟩

/-- A registration that succeeds has found every identifier free or bound to the same prototype, and has
bound them. -/
theorem registerAll_eq_ok {p : Prototype α} {ts : List TypeId} (h : s.registerAll p ts = .ok s') :
    (∀ t ∈ ts, t.isEmpty = false ∧ ∀ k, s.kindOf? t = some k → k = p.name) ∧
      s' = if ts.isEmpty then s else s.bind p.name p.schema ts := by
  rw [registerAll, registerKind] at h
  cases judged : ts.forM (s.checkType p.name) with
  | error e =>
    rw [judged] at h
    cases h
  | ok u =>
    rw [judged] at h
    cases Except.ok.inj h
    exact ⟨fun t mem => checkType_eq_ok_iff.1 (forM_eq_ok_iff.1 judged t mem), rfl⟩

theorem grows_registerAll {p : Prototype α} {ts : List TypeId} (h : s.registerAll p ts = .ok s') :
    Relation.ReflTransGen Grows s s' := by
  obtain ⟨passed, rfl⟩ := registerAll_eq_ok h
  split
  · exact .refl
  · next some_ =>
    exact .single (.binds p.schema (by simpa using some_) (fun t mem => (passed t mem).1)
      fun t mem => (passed t mem).2)

/-- The prototype that an identifier is bound to after a registration. -/
theorem kindOf?_registerAll {p : Prototype α} {ts : List TypeId} (h : s.registerAll p ts = .ok s')
    (t : TypeId) : s'.kindOf? t = if t ∈ ts then some p.name else s.kindOf? t := by
  obtain ⟨-, rfl⟩ := registerAll_eq_ok h
  cases ts with
  | nil => rfl
  | cons u ts => exact kindOf?_bind s p.name p.schema (u :: ts) t

/-- Every identifier that both schemes bind is bound to the same prototype. -/
def Fits (other s : Scheme) : Prop :=
  ∀ t k k', other.kindOf? t = some k → s.kindOf? t = some k' → k' = k

theorem fits_bind (fits : Fits other s) {ts : List TypeId}
    (own : ∀ t ∈ ts, other.kindOf? t = some kind) (schema : Json) :
    Fits other (s.bind kind schema ts) := by
  intro t k k' theirs ours
  rw [kindOf?_bind] at ours
  split at ours
  · next mem => exact Option.some.inj (ours.symm.trans ((own t mem).symm.trans theirs))
  · exact fits t k k' theirs ours

/-- Prototypes of another scheme are taken over one by one. -/
theorem grows_foldl (consistent : other.Consistent) (es : List (String × Binding))
    (theirs : ∀ e ∈ es, e ∈ other.kinds) (fits : Fits other s) : Relation.ReflTransGen Grows s
      (es.foldl (fun s e => s.bind e.1 e.2.schema e.2.types) s) := by
  induction es generalizing s with
  | nil => exact .refl
  | cons e es ih =>
    have known : other.kinds.get? e.1 = some e.2 :=
      (Table.get?_eq_some_iff consistent.kinds).2 (theirs e List.mem_cons_self)
    have own (t : TypeId) (mem : t ∈ e.2.types) : other.kindOf? t = some e.1 :=
      (consistent.bound_iff t e.1).2 ⟨e.2, known, mem⟩
    have first : Grows s (s.bind e.1 e.2.schema e.2.types) :=
      .binds e.2.schema (consistent.listed e.1 e.2 known).1
        (fun t mem => consistent.named t (isRegistered_iff.2 ⟨e.1, own t mem⟩))
        fun t mem k ours => fits t e.1 k (own t mem) ours
    exact .head first (ih (fun d mem => theirs d (List.mem_cons_of_mem e mem))
      (fits_bind fits own e.2.schema))

theorem grows_merge (consistent : other.Consistent) (h : s.merge other = .ok s') :
    Relation.ReflTransGen Grows s s' := by
  rw [merge] at h
  cases judged : other.types.forM fun e => s.checkBinding e.2 e.1 with
  | error e =>
    rw [judged] at h
    cases h
  | ok u =>
    rw [judged] at h
    cases Except.ok.inj h
    have passed := forM_eq_ok_iff.1 judged
    refine grows_foldl consistent other.kinds (fun e mem => mem) fun t k k' theirs ours => ?_
    have mem := (Table.get?_eq_some_iff consistent.types).1 theirs
    exact checkBinding_eq_ok_iff.1 (passed (t, k) mem) k' ours

/-! ## Calls -/

/-- Any calls, failing ones among them, that bring a scheme to another one. What is merged was brought
about by calls as well. -/
inductive Later : Scheme → Scheme → Prop where
  | same {s : Scheme} : Later s s
  | registered {s s' : Scheme} {α : Type} (before : Later s s') (p : Prototype α)
    (ts : List TypeId) : Later s ((registering p ts).run s').2
  | merged {s s' other : Scheme} {allowsUnknown : Bool} (before : Later s s')
    (made : Later { allowsUnknown } other) : Later s ((merging other).run s').2

/-- A scheme that calls have brought about. -/
def Reachable (s : Scheme) : Prop := ∃ allowsUnknown, Later { allowsUnknown } s

theorem grows_settled {r : Except SchemeFault Scheme}
    (h : ∀ s', r = .ok s' → Relation.ReflTransGen Grows s s') :
    Relation.ReflTransGen Grows s (s.settled r).2 := by
  cases r with
  | error e => exact .refl
  | ok s' => exact h s' rfl

theorem consistent_of_grows (grows : Relation.ReflTransGen Grows s s') (h : s.Consistent) :
    s'.Consistent := by
  induction grows with
  | refl => exact h
  | tail _ last ih => exact last.consistent ih

/-- Calls only add to a scheme. -/
theorem Later.grows (later : Later s s') : Relation.ReflTransGen Grows s s' := by
  induction later with
  | same => exact .refl
  | registered before p ts ih =>
    rw [run_registering]
    exact ih.trans (grows_settled fun _ => grows_registerAll)
  | @merged s s' other allowsUnknown before made ih made_ih =>
    have consistent := consistent_of_grows made_ih (consistent_empty allowsUnknown)
    rw [run_merging]
    exact ih.trans (grows_settled fun _ => grows_merge consistent)

/-- A consistent scheme stays consistent, whatever is called on it. -/
theorem Later.consistent (later : Later s s') (h : s.Consistent) : s'.Consistent :=
  consistent_of_grows later.grows h

/-- An identifier that is bound stays bound to the same prototype. -/
theorem Grows.kindOf? (grows : Grows s s') (h : s.kindOf? t = some kind) :
    s'.kindOf? t = some kind := by
  cases grows with
  | @binds k ts schema some_ named free =>
    rw [kindOf?_bind]
    split
    · next mem => rw [free t mem kind h]
    · exact h

theorem Later.kindOf? (later : Later s s') (h : s.kindOf? t = some kind) :
    s'.kindOf? t = some kind := by
  have grows := later.grows
  clear later
  induction grows with
  | refl => exact h
  | tail _ last ih => exact last.kindOf? ih

theorem Later.trans {s'' : Scheme} (first : Later s s') (second : Later s' s'') : Later s s'' := by
  induction second with
  | same => exact first
  | registered _ p ts ih => exact .registered (ih first) p ts
  | merged _ made ih => exact .merged (ih first) made

/-- A canonical identifier stays canonical. -/
theorem Later.typeOf (later : Later s s') (h : s.typeOf kind = .ok t) : s'.typeOf kind = .ok t := by
  have grows := later.grows
  clear later
  induction grows with
  | refl => exact h
  | tail _ last ih => exact last.typeOf ih

theorem Reachable.consistent (reachable : Reachable s) : s.Consistent := by
  obtain ⟨allowsUnknown, later⟩ := reachable
  exact later.consistent (consistent_empty allowsUnknown)

/-! ## What can be asked of a scheme -/

theorem settled_of_error {r : Except SchemeFault Scheme} {e : SchemeFault}
    (failed : (s.settled r).1 = .error e) : (s.settled r).2 = s := by
  cases r with
  | error e => rfl
  | ok s' => cases failed

namespace Consistent

/-- No prototype lists the empty identifier. -/
theorem named_of_lists (h : s.Consistent) (bound : s.Lists kind t) : t.isEmpty = false :=
  h.named t (isRegistered_iff.2 ⟨kind, (h.bound_iff t kind).2 bound⟩)

/-- No two prototypes list the same identifier. -/
theorem lists_unique (h : s.Consistent) {kind' : String} (bound : s.Lists kind t)
    (bound' : s.Lists kind' t) : kind = kind' :=
  Option.some.inj (((h.bound_iff t kind).2 bound).symm.trans ((h.bound_iff t kind').2 bound'))

theorem exists_typeOf_iff (h : s.Consistent) :
    (∃ t, s.typeOf kind = .ok t) ↔ ∃ t, s.kindOf? t = some kind := by
  constructor
  · rintro ⟨t, canonical⟩
    obtain ⟨b, known, first⟩ := typeOf_eq_ok_iff.1 canonical
    exact ⟨t, (h.bound_iff t kind).2 ⟨b, known, List.mem_of_mem_head? first⟩⟩
  · rintro ⟨t, bound⟩
    obtain ⟨b, known, mem⟩ := (h.bound_iff t kind).1 bound
    exact ⟨b.types.head (List.ne_nil_of_mem mem),
      typeOf_eq_ok_iff.2 ⟨b, known, List.head?_eq_some_head _⟩⟩

/-- The identifiers bound to the same prototype as a bound one are those that the prototype lists. -/
theorem aliases_of_bound (h : s.Consistent) (bound : s.kindOf? t = some kind) :
    (∀ u, u ∈ s.aliases t ↔ s.kindOf? u = some kind) ∧
      ∃ b, s.kinds.get? kind = some b ∧ s.aliases t = b.types ∧ s.jsonSchema t = .ok b.schema := by
  obtain ⟨b, known, mem⟩ := (h.bound_iff t kind).1 bound
  have aliases : s.aliases t = b.types := by simp [Scheme.aliases, bound, known]
  refine ⟨fun u => ?_, b, known, aliases, by simp [Scheme.jsonSchema, bound, known]⟩
  rw [aliases, h.bound_iff]
  constructor
  · intro mem
    exact ⟨b, known, mem⟩
  · rintro ⟨b', known', mem⟩
    cases known.symm.trans known'
    exact mem

theorem mem_aliases_iff (h : s.Consistent) (boundt : s.isRegistered t = true)
    (boundu : s.isRegistered u = true) : u ∈ s.aliases t ↔ s.aliases t = s.aliases u := by
  obtain ⟨kind, boundt⟩ := isRegistered_iff.1 boundt
  obtain ⟨kind', boundu⟩ := isRegistered_iff.1 boundu
  obtain ⟨memt, b, known, listt, -⟩ := h.aliases_of_bound boundt
  obtain ⟨memu, b', known', listu, -⟩ := h.aliases_of_bound boundu
  constructor
  · intro mem
    cases boundu.symm.trans ((memt u).1 mem)
    cases known.symm.trans known'
    rw [listt, listu]
  · intro same
    rw [same]
    exact (memu u).2 boundu

theorem exists_jsonSchema_iff (h : s.Consistent) :
    (∃ v, s.jsonSchema t = .ok v) ↔ s.isRegistered t = true := by
  constructor
  · rintro ⟨v, schema⟩
    cases bound : s.kindOf? t with
    | none => simp [Scheme.jsonSchema, bound] at schema
    | some kind => exact isRegistered_iff.2 ⟨kind, bound⟩
  · intro bound
    obtain ⟨kind, bound⟩ := isRegistered_iff.1 bound
    obtain ⟨-, b, -, -, schema⟩ := h.aliases_of_bound bound
    exact ⟨b.schema, schema⟩

end Consistent

/-- Whatever calls have brought a scheme about, the two ways in which it keeps its bindings agree: an
identifier is bound to a prototype if and only if the prototype lists it, lists are neither empty nor do
they have anything twice, and the empty identifier is not bound. A call that fails leaves the scheme as
it is. So a prototype has a canonical identifier if and only if something is bound to it, and keeps it
whatever is called later; what is bound falls into classes of aliases; and the schema of an identifier
is known if and only if it is bound. -/
theorem bindings_agree (reachable : Reachable s) :
    (∀ t kind, s.kindOf? t = some kind ↔ s.Lists kind t) ∧
      (∀ kind b, s.kinds.get? kind = some b → b.types ≠ [] ∧ b.types.Nodup) ∧
      (∀ t, s.isRegistered t = true → t.isEmpty = false) ∧
      (∀ (α : Type) (p : Prototype α) ts e, ((registering p ts).run s).1 = .error e →
        ((registering p ts).run s).2 = s) ∧
      (∀ other e, ((merging other).run s).1 = .error e → ((merging other).run s).2 = s) ∧
      (∀ kind, (∃ t, s.typeOf kind = .ok t) ↔ ∃ t, s.kindOf? t = some kind) ∧
      (∀ kind t s', s.typeOf kind = .ok t → Later s s' → s'.typeOf kind = .ok t) ∧
      (∀ t u, s.isRegistered t = true → s.isRegistered u = true →
        (u ∈ s.aliases t ↔ s.aliases t = s.aliases u)) ∧
      ∀ t, (∃ v, s.jsonSchema t = .ok v) ↔ s.isRegistered t = true := by
  have h := reachable.consistent
  refine ⟨h.bound_iff, h.listed, h.named, ?_, ?_, fun kind => h.exists_typeOf_iff,
    fun kind t s' canonical later => later.typeOf canonical,
    fun t u boundt boundu => h.mem_aliases_iff boundt boundu, fun t => h.exists_jsonSchema_iff⟩
  · intro α p ts e failed
    rw [run_registering] at failed ⊢
    exact settled_of_error failed
  · intro other e failed
    rw [run_merging] at failed ⊢
    exact settled_of_error failed

/-- A prototype beside that of payloads. -/
def chart : Prototype Payload := { Payload.prototype with name := "chart" }

/-- Payloads have two identifiers, a call that asks for one of them again has failed, and the bindings
of another scheme have been taken over. -/
def mixed : Scheme :=
  ((merging ((registering chart [.ofName "c"]).run {}).2).run
    ((registering chart [.ofName "b", .ofName "a"]).run
      ((registering Payload.prototype [.versioned "a" "v1", .ofName "a"]).run {}).2).2).2

/-- In the scheme above the call that failed has bound nothing, and the aliases of payloads agree. -/
theorem mixed_agrees : Reachable mixed ∧ mixed.isRegistered (.ofName "b") = false ∧
    mixed.aliases (.ofName "a") = mixed.aliases (.versioned "a" "v1") ∧
    (∃ t, mixed.typeOf "chart" = .ok t) ∧
    ∀ s', Later mixed s' → s'.typeOf Payload.prototype.name = .ok (.versioned "a" "v1") := by
  have reachable : Reachable mixed :=
    ⟨false, .merged (.registered (.registered .same _ _) _ _) (.registered .same _ _)⟩
  obtain ⟨-, -, -, -, -, canonical, stays, aliases, -⟩ := bindings_agree reachable
  exact ⟨reachable, by decide, (aliases _ _ (by decide) (by decide)).1 (by decide),
    (canonical _).2 ⟨.ofName "c", by decide⟩, fun s' later => stays _ _ s' (by rfl) later⟩

end PluginKit.Scheme
