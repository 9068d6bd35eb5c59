import PluginKit.Effect

/-!
# Running operations

What an operation gives and the world it leaves, put together from its parts.

## Main statements

- `run_bind`: the second operation starts in the world that the first one leaves.
- `run_within`: an operation on a part of the world leaves the rest as it is.
- `run_forM_check`, `run_forM_change`: judgements and changes that follow each other.
-/

namespace PluginKit

/-- A computation in two parts gives a result if the first part does and the second then does. -/
theorem ok_of_bind {ε α β : Type} {x : Except ε α} {f : α → Except ε β} {b : β}
    (h : x >>= f = .ok b) : ∃ a, x = .ok a ∧ f a = .ok b := by
  cases x with
  | error e => cases h
  | ok a => exact ⟨a, rfl, h⟩

theorem exists_mapM {ε α β : Type} {f : α → Except ε β} {xs : List α}
    (h : ∀ x ∈ xs, ∃ y, f x = .ok y) : ∃ ys, xs.mapM f = .ok ys := by
  induction xs with
  | nil => exact ⟨[], rfl⟩
  | cons x xs ih =>
    obtain ⟨y, first⟩ := h x List.mem_cons_self
    obtain ⟨ys, later⟩ := ih fun z mem => h z (List.mem_cons_of_mem x mem)
    refine ⟨y :: ys, ?_⟩
    rw [List.mapM_cons, first, later]
    rfl

theorem exists_of_mem_mapM {ε α β : Type} {f : α → Except ε β} {xs : List α} {ys : List β} {y : β}
    (made : xs.mapM f = .ok ys) (mem : y ∈ ys) : ∃ x ∈ xs, f x = .ok y := by
  induction xs generalizing ys with
  | nil =>
    rw [List.mapM_nil] at made
    cases made
    cases mem
  | cons x xs ih =>
    rw [List.mapM_cons] at made
    obtain ⟨z, first, made⟩ := ok_of_bind made
    obtain ⟨zs, later, made⟩ := ok_of_bind made
    cases made
    rcases List.mem_cons.1 mem with rfl | mem
    · exact ⟨x, List.mem_cons_self, first⟩
    · obtain ⟨x', mem, gives⟩ := ih later mem
      exact ⟨x', List.mem_cons_of_mem x mem, gives⟩

namespace Effect

variable {σ τ α β : Type}

@[simp] theorem run_pure (a : α) (s : σ) : (pure a : Effect σ α).run s = (.ok a, s) := rfl

@[simp] theorem run_ofFunction (f : σ → Outcome α × σ) (s : σ) : (ofFunction f).run s = f s := rfl

@[simp] theorem run_lift (r : Outcome α) (s : σ) : (lift r : Effect σ α).run s = (r, s) := rfl

theorem run_within (get : τ → σ) (set : τ → σ → τ) (e : Effect σ α) (t : τ) :
    (within get set e).run t = ((e.run (get t)).1, set t (e.run (get t)).2) := rfl

/-- The second operation starts in the world that the first one leaves. -/
theorem run_bind (e : Effect σ α) (f : α → Effect σ β) (s : σ) :
    (e >>= f).run s =
      match e.run s with
      | (.ok a, s) => (f a).run s
      | (.error fault, s) => (.error fault, s) := by
  unfold Effect.run ExceptT.run
  simp only [bind, ExceptT.bind, ExceptT.mk, StateT.bind]
  cases e s with
  | mk r s' => cases r <;> rfl

theorem run_bind_ok {e : Effect σ α} {f : α → Effect σ β} {s s' : σ} {a : α}
    (h : e.run s = (.ok a, s')) : (e >>= f).run s = (f a).run s' := by
  rw [run_bind, h]

theorem run_bind_error {e : Effect σ α} {f : α → Effect σ β} {s s' : σ} {fault : Fault}
    (h : e.run s = (.error fault, s')) : (e >>= f).run s = (.error fault, s') := by
  rw [run_bind, h]

theorem run_map (f : α → β) (e : Effect σ α) (s : σ) :
    (f <$> e).run s = ((e.run s).1.map f, (e.run s).2) := by
  rw [map_eq_pure_bind, run_bind]
  rcases e.run s with ⟨_ | a, s'⟩ <;> rfl

/-! ## Changes in place -/

/-- Judges the world as it is. -/
def check (f : σ → Outcome Unit) : Effect σ Unit := ofFunction fun s => (f s, s)

/-- Changes the world. -/
def change (f : σ → σ) : Effect σ Unit := ofFunction fun s => (.ok (), f s)

@[simp] theorem run_check (f : σ → Outcome Unit) (s : σ) : (check f).run s = (f s, s) := rfl

@[simp] theorem run_change (f : σ → σ) (s : σ) : (change f).run s = (.ok (), f s) := rfl

/-- Judgements that follow each other find the same world. -/
theorem run_forM_check (f : σ → α → Outcome Unit) (xs : List α) (s : σ) :
    (xs.forM fun x => check fun s => f s x).run s = (xs.forM (f s), s) := by
  induction xs with
  | nil => rfl
  | cons x xs ih =>
    rw [List.forM_eq_forM, List.forM_eq_forM, List.forM_cons, List.forM_cons]
    cases judged : f s x with
    -- the first judgement that fails is the last one that is made
    | error fault => exact run_bind_error (congrArg (·, s) judged)
    | ok u => exact (run_bind_ok (congrArg (·, s) judged)).trans ih

/-- Changes that follow each other are made one after the other, and none of them fails. -/
theorem run_forM_change (g : σ → α → σ) (xs : List α) (s : σ) :
    (xs.forM fun x => change fun s => g s x).run s = (.ok (), xs.foldl g s) := by
  induction xs generalizing s with
  | nil => rfl
  | cons x xs ih =>
    rw [List.forM_eq_forM, List.forM_cons, List.foldl_cons]
    exact (run_bind_ok (run_change (g · x) s)).trans (ih (g s x))

/-- The result of an operation on a copy of the world: the copy takes the place of the world unless there
is a fault. -/
def settled (s : σ) : Outcome σ → Outcome Unit × σ
  | .ok s' => (.ok (), s')
  | .error fault => (.error fault, s)

/-! ## What operations give -/

/-- Every value that an operation gives in some world has a property. -/
def Gives (e : Effect σ α) (P : α → Prop) : Prop := ∀ s a, (e.run s).1 = .ok a → P a

end Effect

end PluginKit
