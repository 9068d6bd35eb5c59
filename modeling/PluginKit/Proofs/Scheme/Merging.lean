import PluginKit.Proofs.Scheme.Bindings

/-!
# Schemes put together

A merger takes over the bindings of another scheme. It fails if and only if both schemes bind an
identifier to different prototypes, and then nothing is taken over. Otherwise the result binds what
either of them binds, and every prototype lists first its own identifiers and then the others that it
is given. None of this depends on the order in which the entries of the other scheme are gone through.

## Main statements

- `unites_takeOver`, `Unites.eq`: what a merger gives, and that nothing else is like it.
- `merges_mergingIn`: what a merger comes to, in whatever order it goes through the entries.
- `merging_again`: a merger that is made again adds nothing.
- `merging_merging`: two mergers that are made one after the other.
- `merger_is_union`: the above, for schemes that calls have brought about.
-/

namespace PluginKit.Scheme

variable {a b c s s' other : Scheme} {kind : String} {t u : TypeId}

/-! ## Identifiers and schemas of a prototype -/

/-- The identifiers that a prototype lists, none if it is not known. -/
def listOf (s : Scheme) (kind : String) : List TypeId := (s.typesOf kind).toOption.getD []

/-- The schema of a prototype that is known. -/
def schemaFor? (s : Scheme) (kind : String) : Option Json := (s.kinds.get? kind).map Binding.schema

theorem listOf_eq (s : Scheme) (kind : String) :
    s.listOf kind = ((s.kinds.get? kind).map Binding.types).getD [] := by
  unfold listOf typesOf
  cases s.kinds.get? kind <;> rfl

/-- Of identifiers that are added to a list, those are new that it does not have. -/
theorem foldl_addType_eq_append {ts new : List TypeId} (once : new.Nodup) :
    new.foldl addType ts = ts ++ new.filter (· ∉ ts) := by
  induction new generalizing ts with
  | nil => rw [List.foldl_nil, List.filter_nil, List.append_nil]
  | cons t new ih =>
    obtain ⟨fresh, once⟩ := List.nodup_cons.1 once
    rw [List.foldl_cons, ih once, addType]
    by_cases old : t ∈ ts
    · simp [old]
    · have others : new.filter (· ∉ ts ++ [t]) = new.filter (· ∉ ts) := by
        refine List.filter_congr fun x mem => ?_
        have ne : x ≠ t := fun same => fresh (same ▸ mem)
        simp [ne]
      rw [if_neg old, others]
      simp [old]

/-! ## Entries taken over one by one -/

/-- The scheme after the entries of another one have been taken over. -/
def takeOver (s : Scheme) (entries : List (String × Binding)) : Scheme :=
  entries.foldl (fun s e => s.bind e.1 e.2.schema e.2.types) s

theorem takeOver_cons (s : Scheme) (e : String × Binding) (entries : List (String × Binding)) :
    s.takeOver (e :: entries) = (s.bind e.1 e.2.schema e.2.types).takeOver entries := rfl

/-- Identifiers that the entries list are bound as in the scheme that the entries are from. -/
theorem kindOf?_takeOver {entries : List (String × Binding)}
    (own : ∀ e ∈ entries, ∀ t ∈ e.2.types, other.kindOf? t = some e.1) (s : Scheme) (t : TypeId) :
    (s.takeOver entries).kindOf? t =
      if ∃ e ∈ entries, t ∈ e.2.types then other.kindOf? t else s.kindOf? t := by
  induction entries generalizing s with
  | nil => simp [takeOver]
  | cons e entries ih =>
    rw [takeOver_cons, ih fun d mem => own d (List.mem_cons_of_mem e mem), kindOf?_bind]
    by_cases later : ∃ d ∈ entries, t ∈ d.2.types
    · simp [later]
    · by_cases first : t ∈ e.2.types
      · simp [later, first, own e List.mem_cons_self t first]
      · simp [later, first]

/-- The binding of a prototype after identifiers have been bound to it depends only on its binding before.
-/
theorem get?_kinds_bind (s : Scheme) (kind : String) (schema : Json) (ts : List TypeId) :
    (s.bind kind schema ts).kinds.get? kind =
      some { schema := (s.schemaFor? kind).getD schema, types := ts.foldl addType (s.listOf kind) } := by
  rw [listOf_eq, schemaFor?, bind, Table.get?_insert_self]
  cases s.kinds.get? kind <;> rfl

theorem kinds_takeOver_of_not_mem {entries : List (String × Binding)}
    (absent : kind ∉ entries.map Prod.fst) (s : Scheme) :
    (s.takeOver entries).kinds.get? kind = s.kinds.get? kind := by
  induction entries generalizing s with
  | nil => rfl
  | cons e entries ih =>
    rw [List.map_cons, List.mem_cons, not_or] at absent
    rw [takeOver_cons, ih absent.2, kinds_bind_of_ne s absent.1]

/-- If the entries have different keys, each one is joined to the binding that its prototype had before.
-/
theorem kinds_takeOver_of_mem {entries : List (String × Binding)}
    (once : (entries.map Prod.fst).Nodup) {e : String × Binding} (mem : e ∈ entries) (s : Scheme) :
    (s.takeOver entries).kinds.get? e.1 =
      some { schema := (s.schemaFor? e.1).getD e.2.schema,
             types := e.2.types.foldl addType (s.listOf e.1) } := by
  induction entries generalizing s with
  | nil => cases mem
  | cons d entries ih =>
    obtain ⟨fresh, once⟩ := List.nodup_cons.1 once
    rw [takeOver_cons]
    rcases List.mem_cons.1 mem with rfl | mem
    · rw [kinds_takeOver_of_not_mem fresh, get?_kinds_bind]
    · have ne : e.1 ≠ d.1 := fun same => fresh (same ▸ List.mem_map_of_mem mem)
      rw [ih once mem, schemaFor?, listOf_eq, kinds_bind_of_ne s ne, ← schemaFor?, ← listOf_eq]

/-! ## What two schemes come to together -/

/-- A scheme binds what one of two schemes binds; its prototypes list what they list in the first one,
then what they list in the second one only. -/
structure Unites (a b s : Scheme) : Prop where
  bound : ∀ t k, s.kindOf? t = some k ↔ a.kindOf? t = some k ∨ b.kindOf? t = some k
  listed : ∀ kind, s.listOf kind = a.listOf kind ++ (b.listOf kind).filter (· ∉ a.listOf kind)
  schemas : ∀ kind, s.schemaFor? kind = (a.schemaFor? kind).or (b.schemaFor? kind)
  allowsUnknown : s.allowsUnknown = a.allowsUnknown

/-- Two schemes are the same if they bind the same and know the same of every prototype. -/
theorem Consistent.eq (h : s.Consistent) (h' : s'.Consistent)
    (bound : ∀ t, s.kindOf? t = s'.kindOf? t) (listed : ∀ kind, s.listOf kind = s'.listOf kind)
    (schemas : ∀ kind, s.schemaFor? kind = s'.schemaFor? kind)
    (allowsUnknown : s.allowsUnknown = s'.allowsUnknown) : s = s' := by
  have types : s.types = s'.types := Table.eq_of_get? h.types h'.types bound
  have kinds : s.kinds = s'.kinds := by
    refine Table.eq_of_get? h.kinds h'.kinds fun kind => ?_
    have list := listed kind
    have schema := schemas kind
    rw [listOf_eq, listOf_eq] at list
    unfold schemaFor? at schema
    generalize s.kinds.get? kind = known at list schema ⊢
    generalize s'.kinds.get? kind = known' at list schema ⊢
    rcases known with _ | ⟨v, ts⟩ <;> rcases known' with _ | ⟨v', ts'⟩
    · rfl
    · cases schema
    · cases schema
    · cases schema
      cases list
      rfl
  cases s
  cases s'
  cases types
  cases kinds
  cases allowsUnknown
  rfl

/-- Two schemes come to one scheme together. -/
theorem Unites.eq (first : Unites a b s) (second : Unites a b s') (h : s.Consistent)
    (h' : s'.Consistent) : s = s' :=
  h.eq h' (fun t => Option.ext fun k => (first.bound t k).trans (second.bound t k).symm)
    (fun kind => (first.listed kind).trans (second.listed kind).symm)
    (fun kind => (first.schemas kind).trans (second.schemas kind).symm)
    (first.allowsUnknown.trans second.allowsUnknown.symm)

/-- A scheme that has taken over another one has nothing more to take over from it. -/
theorem Unites.again (unites : Unites a b s) : Unites s b s where
  bound t k := by
    rw [unites.bound, or_assoc, or_self]
  listed kind := by
    have none_left : (b.listOf kind).filter (· ∉ s.listOf kind) = [] := by
      rw [List.filter_eq_nil_iff]
      intro t theirs
      rw [unites.listed kind]
      by_cases ours : t ∈ a.listOf kind <;> simp [ours, theirs]
    rw [none_left, List.append_nil]
  schemas kind := by
    rw [unites.schemas]
    cases a.schemaFor? kind <;> cases b.schemaFor? kind <;> rfl
  allowsUnknown := rfl

theorem allowsUnknown_takeOver (entries : List (String × Binding)) (s : Scheme) :
    (s.takeOver entries).allowsUnknown = s.allowsUnknown := by
  induction entries generalizing s with
  | nil => rfl
  | cons e entries ih => rw [takeOver_cons, ih, bind]

/-- The binding of a prototype after entries have been taken over in any order. -/
theorem kinds_takeOver (consistent : b.Consistent) {entries : List (String × Binding)}
    (all : entries.Perm b.kinds) (s : Scheme) (kind : String) :
    (s.takeOver entries).kinds.get? kind =
      match b.kinds.get? kind with
      | none => s.kinds.get? kind
      | some d => some { schema := (s.schemaFor? kind).getD d.schema,
                         types := d.types.foldl addType (s.listOf kind) } := by
  cases theirs : b.kinds.get? kind with
  | none =>
    refine kinds_takeOver_of_not_mem (fun keyed => ?_) s
    obtain ⟨e, mem, rfl⟩ := List.mem_map.1 keyed
    have known := (Table.get?_eq_some_iff consistent.kinds).2 (all.mem_iff.1 mem)
    rw [known] at theirs
    cases theirs
  | some d =>
    have once : (entries.map Prod.fst).Nodup :=
      (all.map Prod.fst).nodup_iff.2 consistent.kinds.nodup_keys
    have mem : (kind, d) ∈ entries :=
      all.mem_iff.2 ((Table.get?_eq_some_iff consistent.kinds).1 theirs)
    exact kinds_takeOver_of_mem once mem s

/-- In whatever order the entries of a scheme are taken over, together they come to the same. -/
theorem unites_takeOver (consistent : b.Consistent) (fits : Fits b a)
    {entries : List (String × Binding)} (all : entries.Perm b.kinds) :
    Unites a b (a.takeOver entries) := by
  have entry (e : String × Binding) : e ∈ entries ↔ b.kinds.get? e.1 = some e.2 :=
    all.mem_iff.trans (Table.get?_eq_some_iff consistent.kinds).symm
  have own (e : String × Binding) (mem : e ∈ entries) (t : TypeId) (listed : t ∈ e.2.types) :
      b.kindOf? t = some e.1 := (consistent.bound_iff t e.1).2 ⟨e.2, (entry e).1 mem, listed⟩
  constructor
  case bound =>
    intro t k
    rw [kindOf?_takeOver own]
    split
    · next listed =>
      obtain ⟨e, mem, listed⟩ := listed
      have theirs := own e mem t listed
      refine ⟨.inr, fun either => either.elim (fun ours => ?_) id⟩
      rw [theirs, fits t e.1 k theirs ours]
    · next unlisted =>
      refine ⟨.inl, fun either => either.elim id fun theirs => ?_⟩
      obtain ⟨d, known, listed⟩ := (consistent.bound_iff t k).1 theirs
      exact absurd ⟨(k, d), (entry (k, d)).2 known, listed⟩ unlisted
  case listed =>
    intro kind
    rw [listOf_eq, kinds_takeOver consistent all, b.listOf_eq]
    cases theirs : b.kinds.get? kind with
    | none => simp [listOf_eq]
    | some d => exact foldl_addType_eq_append (consistent.listed kind d theirs).2
  case schemas =>
    intro kind
    unfold schemaFor?
    rw [kinds_takeOver consistent all, schemaFor?]
    cases b.kinds.get? kind <;> cases a.kinds.get? kind <;> rfl
  case allowsUnknown => exact allowsUnknown_takeOver entries a

/-! ## Mergers -/

/-- Takes over entries of another scheme in place, after all identifiers have been judged. -/
def mergingIn (types : List (TypeId × String)) (entries : List (String × Binding)) : Edit := do
  types.forM fun e => Edit.check fun s => s.checkBinding e.2 e.1
  entries.forM fun e => binding e.1 e.2.schema e.2.types

/-- The result of a merger: a fault that names a conflict, or both schemes together. -/
inductive Merges (a b : Scheme) : Except SchemeFault Unit × Scheme → Prop where
  | conflict {t : TypeId} {k k' : String} (ours : a.kindOf? t = some k)
    (theirs : b.kindOf? t = some k') (ne : k ≠ k') : Merges a b (.error (.alreadyRegistered t k k'), a)
  | united {s : Scheme} (fits : Fits b a) (consistent : s.Consistent) (unites : Unites a b s) :
    Merges a b (.ok (), s)

theorem exists_of_forM_eq_error {ε β : Type} {f : β → Except ε Unit} {xs : List β} {e : ε}
    (h : xs.forM f = .error e) : ∃ x ∈ xs, f x = .error e := by
  induction xs with
  | nil => cases h
  | cons x xs ih =>
    rw [List.forM_eq_forM, List.forM_cons] at h
    cases first : f x with
    | error e' =>
      rw [first] at h
      cases h
      exact ⟨x, List.mem_cons_self, first⟩
    | ok u =>
      rw [first] at h
      obtain ⟨y, mem, fails⟩ := ih h
      exact ⟨y, List.mem_cons_of_mem x mem, fails⟩

theorem of_checkBinding_eq_error {e : SchemeFault} (h : s.checkBinding kind t = .error e) :
    ∃ k, s.kindOf? t = some k ∧ k ≠ kind ∧ e = .alreadyRegistered t k kind := by
  unfold checkBinding at h
  split at h
  · cases h
  · next k bound =>
    split at h
    · cases h
    · next ne =>
      cases h
      exact ⟨k, bound, ne, rfl⟩

/-- In whatever order a merger goes through the entries of the other scheme. -/
theorem merges_mergingIn (ha : a.Consistent) (hb : b.Consistent) {types : List (TypeId × String)}
    {entries : List (String × Binding)} (allTypes : types.Perm b.types)
    (all : entries.Perm b.kinds) : Merges a b ((mergingIn types entries).run a) := by
  have bound (e : TypeId × String) : e ∈ types ↔ b.kindOf? e.1 = some e.2 :=
    allTypes.mem_iff.trans (Table.get?_eq_some_iff hb.types).symm
  rw [mergingIn, Edit.run_bind, Edit.run_forM_check]
  cases judged : types.forM fun e => a.checkBinding e.2 e.1 with
  | error e =>
    obtain ⟨⟨t, k'⟩, mem, fails⟩ := exists_of_forM_eq_error judged
    obtain ⟨k, ours, ne, rfl⟩ := of_checkBinding_eq_error fails
    exact .conflict ours ((bound (t, k')).1 mem) ne
  | ok u =>
    have fits : Fits b a := fun t k k' theirs ours =>
      checkBinding_eq_ok_iff.1 (forM_eq_ok_iff.1 judged (t, k) ((bound (t, k)).2 theirs)) k' ours
    have grows : Relation.ReflTransGen Grows a (a.takeOver entries) :=
      grows_foldl hb entries (fun e mem => all.mem_iff.1 mem) fits
    have run : Edit.run (entries.forM fun e => binding e.1 e.2.schema e.2.types) a =
        (.ok (), a.takeOver entries) :=
      Edit.run_forM_change (fun e s => run_binding e.1 e.2.schema e.2.types s) entries a
    change Merges a b (Edit.run (entries.forM fun e => binding e.1 e.2.schema e.2.types) a)
    rw [run]
    exact .united fits (consistent_of_grows grows ha) (unites_takeOver hb fits all)

theorem merges_merging (ha : a.Consistent) (hb : b.Consistent) : Merges a b ((merging b).run a) :=
  merges_mergingIn ha hb (.refl _) (.refl _)

theorem Merges.ok_iff {r : Except SchemeFault Unit × Scheme} (h : Merges a b r) :
    r.1 = .ok () ↔ Fits b a := by
  cases h with
  | conflict ours theirs ne => exact ⟨nofun, fun fits => absurd (fits _ _ _ theirs ours) ne⟩
  | united fits => exact ⟨fun _ => fits, fun _ => rfl⟩

/-- Every order in which a merger takes the entries gives the same scheme. -/
theorem Merges.scheme_eq {r r' : Except SchemeFault Unit × Scheme} (h : Merges a b r)
    (h' : Merges a b r') : r.2 = r'.2 := by
  have both : r.1 = .ok () ↔ r'.1 = .ok () := h.ok_iff.trans h'.ok_iff.symm
  cases h with
  | conflict =>
    cases h' with
    | conflict => rfl
    | united => cases both.2 rfl
  | united fits consistent unites =>
    cases h' with
    | conflict => cases both.1 rfl
    | united fits' consistent' unites' => exact unites.eq unites' consistent consistent'

theorem fits_of_unites (unites : Unites a b s) : Fits c s ↔ Fits c a ∧ Fits c b := by
  constructor
  · intro fits
    refine ⟨fun t k k' theirs ours => ?_, fun t k k' theirs ours => ?_⟩
    · exact fits t k k' theirs ((unites.bound t k').2 (.inl ours))
    · exact fits t k k' theirs ((unites.bound t k').2 (.inr ours))
  · rintro ⟨first, second⟩ t k k' theirs ours
    exact ((unites.bound t k').1 ours).elim (first t k k' theirs) (second t k k' theirs)

/-- A scheme that has been taken over has nothing to add. -/
theorem merging_again (hb : b.Consistent) (fits : Fits b a) (consistent : s.Consistent)
    (unites : Unites a b s) : (merging b).run s = (.ok (), s) := by
  have fits' : Fits b s :=
    (fits_of_unites unites).2 ⟨fits, fun t k k' h h' => Option.some.inj (h'.symm.trans h)⟩
  have again := merges_merging consistent hb
  have ok := again.ok_iff.2 fits'
  generalize (merging b).run s = r at again ok
  cases again with
  | conflict => cases ok
  | united _ consistent' unites' => rw [unites'.eq unites.again consistent' consistent]

theorem fits_comm : Fits a b ↔ Fits b a :=
  ⟨fun fits t k k' theirs ours => (fits t k' k ours theirs).symm,
    fun fits t k k' theirs ours => (fits t k' k ours theirs).symm⟩

/-- Takes over the bindings of two schemes in place, one scheme after the other. -/
def mergingBoth (b c : Scheme) : Edit := do
  merging b
  merging c

/-- Of two mergers that are made one after the other, both succeed if and only if no two of the three
schemes are in conflict. -/
theorem merging_merging (ha : a.Consistent) (hb : b.Consistent) (hc : c.Consistent) :
    (((mergingBoth b c).run a).1 = .ok () ↔ Fits b a ∧ Fits c a ∧ Fits c b) ∧
      (((mergingBoth b c).run a).1 = .ok () →
        ((mergingBoth b c).run a).2.Consistent ∧
        ∀ t k, ((mergingBoth b c).run a).2.kindOf? t = some k ↔
          (a.kindOf? t = some k ∨ b.kindOf? t = some k) ∨ c.kindOf? t = some k) := by
  rw [mergingBoth, Edit.run_bind]
  have first := merges_merging ha hb
  cases run : (merging b).run a with
  | mk r s =>
    rw [run] at first
    cases first with
    | conflict ours theirs ne =>
      exact ⟨⟨nofun, fun fits => absurd (fits.1 _ _ _ theirs ours) ne⟩, nofun⟩
    | united fits consistent unites =>
      have second := merges_merging consistent hc
      refine ⟨second.ok_iff.trans ((fits_of_unites unites).trans (and_iff_right fits).symm), ?_⟩
      intro ok
      change ((merging c).run s).1 = .ok () at ok
      change ((merging c).run s).2.Consistent ∧ ∀ t k, ((merging c).run s).2.kindOf? t = some k ↔ _
      generalize (merging c).run s = r' at second ok ⊢
      cases second with
      | conflict => cases ok
      | united fits' consistent' unites' =>
        refine ⟨consistent', fun t k => ?_⟩
        rw [unites'.bound, unites.bound]

/-- A merger of schemes that calls have brought about fails if and only if both bind an identifier to
different prototypes, and then the scheme is what it was. A merger that succeeds gives what both bind;
every prototype lists its own identifiers first and then, in their order, those of the other scheme that
it does not have; and the same merger has nothing more to add. The order in which the entries of the
other scheme come makes no difference to the outcome. Of two mergers the one or the other may be made
first: if one order succeeds, so does the other, and the same is bound. -/
theorem merger_is_union (ha : Reachable a) (hb : Reachable b) (hc : Reachable c) :
    ((∃ e, ((merging b).run a).1 = .error e) ↔
      ∃ t k k', a.kindOf? t = some k ∧ b.kindOf? t = some k' ∧ k ≠ k') ∧
    (∀ e, ((merging b).run a).1 = .error e → ((merging b).run a).2 = a) ∧
    (∀ s, (merging b).run a = (.ok (), s) → Unites a b s ∧ (merging b).run s = (.ok (), s)) ∧
    (∀ types entries, types.Perm b.types → entries.Perm b.kinds →
      ((mergingIn types entries).run a).2 = ((merging b).run a).2 ∧
      (((mergingIn types entries).run a).1 = .ok () ↔ ((merging b).run a).1 = .ok ())) ∧
    (((mergingBoth b c).run a).1 = .ok () ↔
      ((mergingBoth c b).run a).1 = .ok ()) ∧
    (((mergingBoth b c).run a).1 = .ok () →
      ((mergingBoth b c).run a).2.types =
        ((mergingBoth c b).run a).2.types) := by
  have ha := ha.consistent
  have hb := hb.consistent
  have hc := hc.consistent
  have merges := merges_merging ha hb
  have orders : ((mergingBoth b c).run a).1 = .ok () ↔
      ((mergingBoth c b).run a).1 = .ok () := by
    rw [(merging_merging ha hb hc).1, (merging_merging ha hc hb).1, fits_comm (a := b) (b := c)]
    exact and_left_comm
  refine ⟨?fails, ?unchanged, ?unites, ?permuted, orders, ?same⟩
  case fails =>
    generalize (merging b).run a = r at merges
    cases merges with
    | @conflict t k k' ours theirs ne =>
      exact ⟨fun _ => ⟨t, k, k', ours, theirs, ne⟩, fun _ => ⟨_, rfl⟩⟩
    | united fits =>
      refine ⟨nofun, ?_⟩
      rintro ⟨t, k, k', ours, theirs, ne⟩
      exact absurd (fits t k' k theirs ours) ne
  case unchanged =>
    intro e failed
    rw [run_merging] at failed ⊢
    exact settled_of_error failed
  case unites =>
    intro s succeeds
    rw [succeeds] at merges
    cases merges with
    | united fits consistent unites =>
      exact ⟨unites, merging_again hb fits consistent unites⟩
  case permuted =>
    intro types entries allTypes all
    have merges' := merges_mergingIn ha hb allTypes all
    exact ⟨merges'.scheme_eq merges, merges'.ok_iff.trans merges.ok_iff.symm⟩
  case same =>
    intro ok
    obtain ⟨first, bound⟩ := (merging_merging ha hb hc).2 ok
    obtain ⟨second, bound'⟩ := (merging_merging ha hc hb).2 (orders.1 ok)
    refine Table.eq_of_get? first.types second.types fun t => Option.ext fun k => ?_
    exact (bound t k).trans (or_right_comm.trans (bound' t k).symm)

/-- Charts under three identifiers, of which the second one is theirs in `mixed` too. -/
def charts : Scheme :=
  ((registering chart [.ofName "d", .ofName "c", .ofName "e"]).run {}).2

/-- Charts under an identifier that payloads have in `mixed`. -/
def misnamed : Scheme := ((registering chart [.ofName "a"]).run {}).2

/-- Charts get their further identifiers, and a scheme that is in conflict changes nothing. -/
theorem charts_united : Reachable mixed ∧ Reachable charts ∧ Reachable misnamed ∧
    ((merging charts).run mixed).1 = .ok () ∧
    ((merging charts).run mixed).2.listOf "chart" = [.ofName "c", .ofName "d", .ofName "e"] ∧
    (∃ e, ((merging misnamed).run mixed).1 = .error e) ∧
    ((merging misnamed).run mixed).2 = mixed ∧
    ((mergingBoth charts misnamed).run mixed).1 ≠ .ok () := by
  have first : Reachable mixed :=
    ⟨false, .merged (.registered (.registered .same _ _) _ _) (.registered .same _ _)⟩
  have second : Reachable charts := ⟨false, .registered .same _ _⟩
  have third : Reachable misnamed := ⟨false, .registered .same _ _⟩
  have ok : ((merging charts).run mixed).1 = .ok () := by rfl
  obtain ⟨-, -, unites, -, either, -⟩ := merger_is_union first second third
  obtain ⟨fails, unchanged, -⟩ := merger_is_union first third second
  obtain ⟨e, failed⟩ :=
    fails.2 ⟨.ofName "a", Payload.prototype.name, "chart", by decide, by decide, by decide⟩
  refine ⟨first, second, third, ok, ?_, ⟨e, failed⟩, unchanged e failed, fun both => ?_⟩
  · rw [(unites ((merging charts).run mixed).2 (Prod.ext ok rfl)).1.listed]
    decide
  · have failed' := either.1 both
    rw [mergingBoth, Edit.run_bind] at failed'
    generalize (merging misnamed).run mixed = r at failed failed'
    obtain ⟨_, _⟩ := r
    cases failed
    cases failed'

end PluginKit.Scheme
