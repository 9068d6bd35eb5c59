import Mathlib.Data.List.Nodup
import PluginKit.Table

/-!
# Tables in order

The entries of a table ascend strictly by key, and a list that ascends is the table of its entries.

## Main statements

- `ofList_of_ascending`: an ascending list is its own table.
- `get?_eq_some_iff`: in a table that ascends, what is found under a key is its entry.
- `eq_of_get?`: tables that ascend are the same if the same is found in them.
- `union_of_forall`: writing entries that are there already changes nothing.
- `erase_insert`: taking away an entry that was not there before leaves the table as it was.
-/

namespace PluginKit.Table

variable {κ α β : Type} [Ord κ]

theorem ascending_mapValues_iff {f : α → β} {t : Table κ α} :
    Ascending (mapValues f t) ↔ Ascending t :=
  List.pairwise_map

theorem mem_of_mem_foldl_insert {entries : List (κ × α)} {t : Table κ α} {e : κ × α}
    (h : e ∈ entries.foldl (fun t e => insert t e.1 e.2) t) : e ∈ t ∨ e ∈ entries := by
  induction entries generalizing t with
  | nil => exact .inl h
  | cons d entries ih =>
    rcases ih h with old | new
    · rcases mem_insert old with rfl | old
      · exact .inr List.mem_cons_self
      · exact .inl old
    · exact .inr (List.mem_cons_of_mem _ new)

/-- The table of some entries has no others. -/
theorem mem_of_mem_ofList {entries : List (κ × α)} {e : κ × α} (h : e ∈ ofList entries) :
    e ∈ entries :=
  (mem_of_mem_foldl_insert h).resolve_left List.not_mem_nil

theorem insert_nil (k : κ) (v : α) : insert ([] : Table κ α) k v = [(k, v)] := rfl

theorem insert_cons_of_lt {j k : κ} (before : compare k j = .lt) (u v : α) (t : Table κ α) :
    insert ((j, u) :: t) k v = (k, v) :: (j, u) :: t := by
  rw [insert, before]

theorem insert_cons_of_gt {j k : κ} (later : compare k j = .gt) (u v : α) (t : Table κ α) :
    insert ((j, u) :: t) k v = (j, u) :: insert t k v := by
  rw [insert, later]

/-- Of two entries for a key that are written one after the other the second one stays. -/
theorem insert_insert_self [Std.ReflOrd κ] (t : Table κ α) (k : κ) (v w : α) :
    insert (insert t k v) k w = insert t k w := by
  induction t with
  | nil => simp [insert]
  | cons d rest ih =>
    obtain ⟨k', v'⟩ := d
    cases order : compare k k' <;> simp [insert, order, ih]

section Order

variable [Std.TransOrd κ]

/-- An entry beyond all others is written at the end. -/
theorem insert_of_forall_lt {t : Table κ α} {k : κ} (h : ∀ e ∈ t, compare e.1 k = .lt) (v : α) :
    insert t k v = t ++ [(k, v)] := by
  induction t with
  | nil => rfl
  | cons d rest ih =>
    obtain ⟨k', v'⟩ := d
    have first : compare k k' = .gt := Std.OrientedCmp.gt_of_lt (h _ List.mem_cons_self)
    rw [insert]
    simp only [first]
    rw [ih fun e he => h e (List.mem_cons_of_mem _ he), List.cons_append]

theorem foldl_insert_of_ascending (t u : Table κ α) (h : Ascending (t ++ u)) :
    u.foldl (fun t e => insert t e.1 e.2) t = t ++ u := by
  induction u generalizing t with
  | nil => rw [List.foldl_nil, List.append_nil]
  | cons e u ih =>
    -- the next entry lies beyond everything that is written so far
    have beyond : ∀ d ∈ t, compare d.1 e.1 = .lt := fun d hd =>
      (List.pairwise_append.1 h).2.2 d hd e List.mem_cons_self
    rw [List.foldl_cons, insert_of_forall_lt beyond, ih]
    · rw [List.append_assoc, List.singleton_append]
    · rw [List.append_assoc, List.singleton_append]
      exact h

/-- A list that ascends is its own table. -/
theorem ofList_of_ascending {t : Table κ α} (h : Ascending t) : ofList t = t :=
  foldl_insert_of_ascending [] t h

omit [Ord κ] in
theorem get?_mapValues [BEq κ] (f : α → β) (t : Table κ α) (k : κ) :
    get? (mapValues f t) k = (get? t k).map f := by
  induction t with
  | nil => rfl
  | cons e t ih =>
    rw [mapValues, List.map_cons, get?, get?, List.lookup_cons, List.lookup_cons]
    split
    · rfl
    · exact ih

/-- In a table that ascends, what is found under a key is its entry. -/
theorem get?_eq_some_iff [BEq κ] [LawfulBEq κ] {t : Table κ α} (h : Ascending t) {k : κ} {v : α} :
    get? t k = some v ↔ (k, v) ∈ t := by
  induction t with
  | nil => simp [get?]
  | cons d rest ih =>
    obtain ⟨k', v'⟩ := d
    obtain ⟨later, ascending⟩ := (ascending_cons_iff _ _).1 h
    rw [get?, List.lookup_cons, List.mem_cons]
    by_cases same : k = k'
    · subst same
      -- no later entry has the key of the first one
      have fresh : (k, v) ∉ rest := by
        intro mem
        have less := later _ mem
        rw [Std.ReflOrd.compare_self] at less
        cases less
      simp [fresh, eq_comm]
    · have other : (k == k') = false := beq_eq_false_iff_ne.2 same
      rw [other, ← ih ascending]
      simp [get?, same]

/-- A table that ascends has every key once. -/
theorem Ascending.nodup_keys {t : Table κ α} (h : Ascending t) : (keys t).Nodup := by
  refine List.pairwise_map.2 (List.Pairwise.imp ?_ h)
  intro d e less same
  rw [same, Std.ReflOrd.compare_self] at less
  cases less

/-- Tables that ascend are the same if the same is found in them. -/
theorem eq_of_get? [BEq κ] [LawfulBEq κ] {t u : Table κ α} (ht : Ascending t) (hu : Ascending u)
    (same : ∀ k, get? t k = get? u k) : t = u := by
  have members (e : κ × α) : e ∈ t ↔ e ∈ u := by
    rw [← get?_eq_some_iff ht, ← get?_eq_some_iff hu, same]
  have permuted : t.Perm u :=
    (List.perm_ext_iff_of_nodup (List.Nodup.of_map _ ht.nodup_keys)
      (List.Nodup.of_map _ hu.nodup_keys)).2 members
  refine permuted.eq_of_pairwise ?_ ht hu
  intro d e _ _ less more
  cases Std.OrientedCmp.not_lt_of_lt less more

/-- Writing an entry that is there already changes nothing. -/
theorem insert_of_get? [BEq κ] [LawfulBEq κ] [Std.LawfulEqOrd κ] {t : Table κ α} (h : Ascending t)
    {k : κ} {v : α} (there : get? t k = some v) : insert t k v = t := by
  apply eq_of_get? (ascending_insert h k v) h
  intro j
  by_cases same : j = k
  · subst same
    rw [get?_insert_self, there]
  · rw [get?_insert_of_ne t same]

/-- Writing entries that are there already changes nothing. -/
theorem union_of_forall [BEq κ] [LawfulBEq κ] [Std.LawfulEqOrd κ] {t u : Table κ α} (h : Ascending t)
    (there : ∀ e ∈ u, get? t e.1 = some e.2) : union t u = t := by
  unfold union
  induction u with
  | nil => rfl
  | cons e u ih =>
    rw [List.foldl_cons, insert_of_get? h (there e List.mem_cons_self)]
    exact ih fun d mem => there d (List.mem_cons_of_mem e mem)

end Order

section Erase

variable [BEq κ] [LawfulBEq κ]

omit [Ord κ] in
theorem erase_of_forall_ne {t : Table κ α} {k : κ} (h : ∀ e ∈ t, e.1 ≠ k) : erase t k = t := by
  rw [erase, List.filter_eq_self]
  intro e he
  simpa using h e he

omit [Ord κ] in
/-- After a key was taken away no entry has this key. -/
theorem ne_of_mem_erase {t : Table κ α} {k : κ} {e : κ × α} (h : e ∈ erase t k) : e.1 ≠ k := by
  have kept := (List.mem_filter.1 h).2
  simpa using kept

omit [Ord κ] in
theorem get?_eq_none_of_forall_ne {t : Table κ α} {k : κ} (h : ∀ e ∈ t, e.1 ≠ k) :
    get? t k = none := by
  rw [get?, List.lookup_eq_none_iff]
  intro e he
  simpa using (h e he).symm

omit [Ord κ] in
/-- Taking an entry away leaves the others as they are. -/
theorem get?_erase_of_ne (t : Table κ α) {j k : κ} (h : j ≠ k) : get? (erase t k) j = get? t j := by
  induction t with
  | nil => rfl
  | cons e t ih =>
    obtain ⟨k', v'⟩ := e
    rw [erase] at ih ⊢
    rw [List.filter_cons]
    by_cases taken : k' = k
    · subst taken
      simpa [get?, List.lookup_cons, beq_eq_false_iff_ne.2 h] using ih
    · rw [if_pos (by simpa using taken), get?, get?, List.lookup_cons, List.lookup_cons]
      split
      · rfl
      · exact ih

omit [LawfulBEq κ] in
theorem ascending_erase {t : Table κ α} (h : Ascending t) (k : κ) : Ascending (erase t k) :=
  List.Pairwise.filter _ h

/-- An entry that is taken away and written anew is replaced. -/
theorem insert_erase [Std.TransOrd κ] [Std.LawfulEqOrd κ] {t : Table κ α} (h : Ascending t) (k : κ)
    (v : α) : insert (erase t k) k v = insert t k v := by
  apply eq_of_get?
  · exact ascending_insert (ascending_erase h k) k v
  · exact ascending_insert h k v
  · intro j
    by_cases same : j = k
    · subst same
      rw [get?_insert_self, get?_insert_self]
    · rw [get?_insert_of_ne _ same, get?_insert_of_ne _ same, get?_erase_of_ne _ same]

/-- Taking away an entry that was not there before leaves the table as it was. -/
theorem erase_insert [Std.LawfulEqOrd κ] {t : Table κ α} {k : κ} (absent : ∀ e ∈ t, e.1 ≠ k)
    (v : α) : erase (insert t k v) k = t := by
  induction t with
  | nil => simp [insert, erase]
  | cons d rest ih =>
    obtain ⟨k', v'⟩ := d
    have ne : k' ≠ k := absent _ List.mem_cons_self
    have later := ih fun e he => absent e (List.mem_cons_of_mem _ he)
    have untouched : erase rest k = rest :=
      erase_of_forall_ne fun e he => absent e (List.mem_cons_of_mem _ he)
    rw [insert]
    split
    · simpa [erase, ne] using untouched
    · next eq => exact absurd (Std.LawfulEqOrd.eq_of_compare eq).symm ne
    · simpa [erase, ne] using later

end Erase

section Lookup

variable [BEq κ] [LawfulBEq κ]

omit [Ord κ] in
theorem mem_of_get? {t : Table κ α} {k : κ} {v : α} (found : get? t k = some v) : (k, v) ∈ t := by
  obtain ⟨before, after, split, -⟩ := List.lookup_eq_some_iff.1 found
  rw [split]
  exact List.mem_append_right _ List.mem_cons_self

/-- A value that every entry for a key has is found under the key, in whatever order the entries are
written. -/
theorem get?_foldl_insert_of_only [Std.LawfulEqOrd κ] {entries : List (κ × α)} {t : Table κ α} {k : κ}
    {v : α} (only : ∀ e ∈ entries, e.1 = k → e.2 = v)
    (there : get? t k = some v ∨ ∃ e ∈ entries, e.1 = k) :
    get? (entries.foldl (fun t e => insert t e.1 e.2) t) k = some v := by
  induction entries generalizing t with
  | nil =>
    rcases there with there | ⟨e, mem, -⟩
    · exact there
    · cases mem
  | cons e entries ih =>
    rw [List.foldl_cons]
    apply ih
    · intro d mem
      exact only d (List.mem_cons_of_mem e mem)
    · by_cases same : e.1 = k
      · left
        rw [← same, get?_insert_self, only e List.mem_cons_self same]
      · rcases there with there | ⟨d, mem, found⟩
        · left
          rwa [get?_insert_of_ne _ (Ne.symm same)]
        · rcases List.mem_cons.1 mem with rfl | later
          · exact absurd found same
          · exact .inr ⟨d, later, found⟩

end Lookup

end PluginKit.Table
