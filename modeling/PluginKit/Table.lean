/-!
# Tables sorted by key

A table lists its entries by ascending key and holds each key once. Everything that the library shows
in the order of its keys is kept in one: members of objects, identities, credentials, bindings.

## Main statements

- `get?_insert_self`: an entry just written is found under its key.
- `get?_insert_of_ne`: writing an entry leaves the others as they are.
- `ascending_insert`, `ascending_ofList`: tables ascend, however they are written.
-/

namespace PluginKit

/-- Entries by ascending key. -/
abbrev Table (κ α : Type) := List (κ × α)

namespace Table

variable {κ α β : Type} [Ord κ]

/-- The value under a key. -/
def get? [BEq κ] (t : Table κ α) (k : κ) : Option α := t.lookup k

/-- Whether there is an entry under a key. -/
def contains [BEq κ] (t : Table κ α) (k : κ) : Bool := (get? t k).isSome

/-- Writes the entry for a key in its place. An entry that was there is replaced. -/
def insert : Table κ α → κ → α → Table κ α
  | [], k, v => [(k, v)]
  | (k', v') :: rest, k, v =>
    match compare k k' with
    | .lt => (k, v) :: (k', v') :: rest
    | .eq => (k, v) :: rest
    | .gt => (k', v') :: insert rest k v

/-- Leaves out the entry for a key. -/
def erase [BEq κ] (t : Table κ α) (k : κ) : Table κ α := t.filter fun e => !(e.1 == k)

/-- Writes the entries one after another, so that the last of equal keys stays. -/
def ofList (entries : List (κ × α)) : Table κ α := entries.foldl (fun t e => insert t e.1 e.2) []

/-- Writes every entry of the second table into the first. -/
def union (t u : Table κ α) : Table κ α := u.foldl (fun t e => insert t e.1 e.2) t

/-- The keys in order. -/
def keys (t : Table κ α) : List κ := t.map Prod.fst

/-- The values in the order of their keys. -/
def values (t : Table κ α) : List α := t.map Prod.snd

/-- The same keys with other values. -/
def mapValues (f : α → β) (t : Table κ α) : Table κ β := t.map fun e => (e.1, f e.2)

section Laws

variable [BEq κ] [LawfulBEq κ] [Std.LawfulEqOrd κ]

omit [Ord κ] [LawfulBEq κ] [Std.LawfulEqOrd κ] in
@[simp] theorem get?_nil (k : κ) : get? ([] : Table κ α) k = none := rfl

/-- An entry just written is found under its key. -/
@[simp] theorem get?_insert_self (t : Table κ α) (k : κ) (v : α) :
    get? (insert t k v) k = some v := by
  induction t with
  | nil => simp [insert, get?]
  | cons e rest ih =>
    obtain ⟨k', v'⟩ := e
    rw [insert]
    split
    · simp [get?]
    · simp [get?]
    · rename_i h
      have hne : k ≠ k' := by
        rintro rfl
        simp at h
      simp only [get?, List.lookup_cons, beq_eq_false_iff_ne.2 hne]
      exact ih

/-- Writing an entry leaves the others as they are. -/
theorem get?_insert_of_ne (t : Table κ α) {j k : κ} (h : j ≠ k) (v : α) :
    get? (insert t k v) j = get? t j := by
  induction t with
  | nil => simp [insert, get?, List.lookup_cons, beq_eq_false_iff_ne.2 h]
  | cons e rest ih =>
    obtain ⟨k', v'⟩ := e
    rw [insert]
    split
    · simp [get?, List.lookup_cons, beq_eq_false_iff_ne.2 h]
    · rename_i hk
      have : k = k' := Std.LawfulEqOrd.eq_of_compare hk
      subst this
      simp [get?, List.lookup_cons, beq_eq_false_iff_ne.2 h]
    · simp only [get?, List.lookup_cons]
      split
      · rfl
      · exact ih

end Laws

/-! ## Order -/

/-- The keys ascend strictly. -/
def Ascending (t : Table κ α) : Prop := List.Pairwise (fun a b => compare a.1 b.1 = .lt) t

instance (t : Table κ α) : Decidable (Ascending t) :=
  inferInstanceAs (Decidable (List.Pairwise (fun a b => compare a.1 b.1 = .lt) t))

theorem ascending_nil : Ascending ([] : Table κ α) := List.Pairwise.nil

theorem ascending_cons_iff (e : κ × α) (t : Table κ α) :
    Ascending (e :: t) ↔ (∀ d ∈ t, compare e.1 d.1 = .lt) ∧ Ascending t :=
  List.pairwise_cons

theorem mem_insert {t : Table κ α} {k : κ} {v : α} {e : κ × α} (h : e ∈ insert t k v) :
    e = (k, v) ∨ e ∈ t := by
  induction t with
  | nil => exact Or.inl (List.mem_singleton.1 h)
  | cons d rest ih =>
    obtain ⟨k', v'⟩ := d
    rw [insert] at h
    split at h
    · exact List.mem_cons.1 h
    · rcases List.mem_cons.1 h with rfl | h
      · exact Or.inl rfl
      · exact Or.inr (List.mem_cons_of_mem _ h)
    · rcases List.mem_cons.1 h with rfl | h
      · exact Or.inr List.mem_cons_self
      · exact (ih h).imp id (List.mem_cons_of_mem _)

variable [Std.TransOrd κ] [Std.LawfulEqOrd κ]

/-- Writing an entry keeps the keys ascending. -/
theorem ascending_insert {t : Table κ α} (h : Ascending t) (k : κ) (v : α) :
    Ascending (insert t k v) := by
  induction t with
  | nil => exact List.pairwise_singleton _ _
  | cons d rest ih =>
    obtain ⟨k', v'⟩ := d
    have hrest := (ascending_cons_iff _ _).1 h
    rw [insert]
    split
    -- the new entry comes before all others
    · next lt =>
      refine (ascending_cons_iff _ _).2 ⟨?_, h⟩
      intro e he
      rcases List.mem_cons.1 he with rfl | he
      · exact lt
      · exact Std.TransCmp.lt_trans lt (hrest.1 e he)
    -- the entry of the key is written anew
    · next eq =>
      have same : k = k' := Std.LawfulEqOrd.eq_of_compare eq
      subst same
      exact (ascending_cons_iff _ _).2 hrest
    -- the new entry comes later, and nothing before it changes
    · next gt =>
      refine (ascending_cons_iff _ _).2 ⟨?_, ih hrest.2⟩
      intro e he
      rcases mem_insert he with rfl | he
      · exact Std.OrientedCmp.lt_of_gt gt
      · exact hrest.1 e he

theorem ascending_foldl_insert (entries : List (κ × α)) {t : Table κ α}
    (h : Ascending t) : Ascending (entries.foldl (fun t e => insert t e.1 e.2) t) := by
  induction entries generalizing t with
  | nil => exact h
  | cons e entries ih => exact ih (ascending_insert h e.1 e.2)

/-- The table of any entries ascends. -/
theorem ascending_ofList (entries : List (κ × α)) : Ascending (ofList entries) :=
  ascending_foldl_insert entries ascending_nil

end Table

end PluginKit
