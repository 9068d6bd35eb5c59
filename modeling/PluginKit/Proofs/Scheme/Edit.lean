import PluginKit.Proofs.Table
import PluginKit.Scheme.Basic

/-!
# Schemes that are changed in place

A scheme in use is changed identifier by identifier, and what is done to it stays done when a fault
comes up later. Registrations and mergers judge every identifier before they bind the first one, so a
fault finds the scheme as it was.

## Main statements

- `run_registering`: a registration in place binds what `registerAll` binds, or leaves the scheme alone.
- `run_merging`: a merger in place takes over what `merge` takes over, or leaves the scheme alone.
-/

namespace PluginKit.Scheme

variable {α : Type} {s : Scheme} {kind : String}

/-! ## Edits -/

/-- An operation on a scheme that is changed in place. -/
abbrev Edit := ExceptT SchemeFault (StateM Scheme) Unit

namespace Edit

/-- The outcome of an edit and the scheme after it, whether it fails or not. -/
def run (e : Edit) (s : Scheme) : Except SchemeFault Unit × Scheme := ExceptT.run e s

/-- Judges the scheme as it is. -/
def check (f : Scheme → Except SchemeFault Unit) : Edit := ExceptT.mk fun s => (f s, s)

/-- Changes the scheme. -/
def change (f : Scheme → Scheme) : Edit := ExceptT.mk fun s => (.ok (), f s)

@[simp] theorem run_check (f : Scheme → Except SchemeFault Unit) (s : Scheme) :
    (check f).run s = (f s, s) := rfl

@[simp] theorem run_change (f : Scheme → Scheme) (s : Scheme) :
    (change f).run s = (.ok (), f s) := rfl

/-- The second edit is made to the scheme that the first one leaves, unless that has failed. -/
theorem run_bind (e : Edit) (f : Unit → Edit) (s : Scheme) :
    run (e >>= f) s =
      match e.run s with
      | (.ok a, s) => (f a).run s
      | (.error fault, s) => (.error fault, s) := by
  unfold run ExceptT.run
  simp only [Bind.bind, ExceptT.bind, ExceptT.mk, StateT.bind]
  cases e s with
  | mk r s' => cases r <;> rfl

/-- Judgements that follow each other find the same scheme. -/
theorem run_forM_check {β : Type} (f : β → Scheme → Except SchemeFault Unit) (xs : List β)
    (s : Scheme) : run (xs.forM fun x => check (f x)) s = (xs.forM fun x => f x s, s) := by
  induction xs with
  | nil => rfl
  | cons x xs ih =>
    rw [List.forM_eq_forM, List.forM_eq_forM, List.forM_cons, run_bind, run_check, List.forM_cons]
    cases f x s with
    | error e => rfl
    | ok u => exact ih

/-- Changes that follow each other are made one after the other, and none of them fails. -/
theorem run_forM_change {β : Type} {f : β → Edit} {g : Scheme → β → Scheme}
    (changes : ∀ x s, (f x).run s = (.ok (), g s x)) (xs : List β) (s : Scheme) :
    run (xs.forM f) s = (.ok (), xs.foldl g s) := by
  induction xs generalizing s with
  | nil => rfl
  | cons x xs ih =>
    rw [List.forM_eq_forM, List.forM_cons, run_bind, changes, List.foldl_cons]
    exact ih (g s x)

end Edit

/-! ## Registrations and mergers -/

/-- Makes a prototype known, without an identifier if it is new. -/
def introduce (s : Scheme) (kind : String) (schema : Json) : Scheme :=
  { s with kinds := s.kinds.insert kind ((s.kinds.get? kind).getD { schema, types := [] }) }

/-- Binds an identifier to a prototype that is known. -/
def attach (kind : String) (s : Scheme) (t : TypeId) : Scheme :=
  { s with
    kinds :=
      match s.kinds.get? kind with
      | some b => s.kinds.insert kind { b with types := addType b.types t }
      | none => s.kinds
    types := s.types.insert t kind }

/-- Binds identifiers to a prototype in place, without a check. -/
def binding (kind : String) (schema : Json) (ts : List TypeId) : Edit := do
  Edit.change fun s => s.introduce kind schema
  ts.forM fun t => Edit.change fun s => s.attach kind t

/-- Binds identifiers to a prototype in place. -/
def registering (p : Prototype α) (ts : List TypeId) : Edit := do
  if ts.isEmpty then return ()
  ts.forM fun t => Edit.check fun s => s.checkType p.name t
  binding p.name p.schema ts

/-- Takes over every binding of another scheme in place. -/
def merging (other : Scheme) : Edit := do
  other.types.forM fun e => Edit.check fun s => s.checkBinding e.2 e.1
  other.kinds.forM fun e => binding e.1 e.2.schema e.2.types

/-! ## What they do -/

/-- Identifiers that are bound one by one are bound as if all at once. -/
theorem foldl_attach (b : Binding) (ts : List TypeId) (s : Scheme) :
    ts.foldl (attach kind) { s with kinds := s.kinds.insert kind b } =
      { s with
        kinds := s.kinds.insert kind { b with types := ts.foldl addType b.types }
        types := ts.foldl (fun m t => m.insert t kind) s.types } := by
  induction ts generalizing b s with
  | nil => rfl
  | cons t ts ih =>
    have first : attach kind { s with kinds := s.kinds.insert kind b } t =
        { s with
          kinds := s.kinds.insert kind { b with types := addType b.types t }
          types := s.types.insert t kind } := by
      simp only [attach, Table.get?_insert_self, Table.insert_insert_self]
    rw [List.foldl_cons, first]
    exact ih { b with types := addType b.types t } { s with types := s.types.insert t kind }

theorem run_binding (kind : String) (schema : Json) (ts : List TypeId) (s : Scheme) :
    (binding kind schema ts).run s = (.ok (), s.bind kind schema ts) := by
  have attaches (t : TypeId) (s : Scheme) :
      (Edit.change fun s => s.attach kind t).run s = (.ok (), s.attach kind t) := rfl
  rw [binding, Edit.run_bind, Edit.run_change]
  exact (Edit.run_forM_change attaches ts _).trans (congrArg _ (foldl_attach _ ts s))

/-- The result of an edit to a copy: the copy takes the place of the scheme unless there is a fault. -/
def settled (s : Scheme) : Except SchemeFault Scheme → Except SchemeFault Unit × Scheme
  | .ok s' => (.ok (), s')
  | .error e => (.error e, s)

/-- A registration in place binds all identifiers or leaves the scheme alone. -/
theorem run_registering (p : Prototype α) (ts : List TypeId) (s : Scheme) :
    (registering p ts).run s = s.settled (s.registerAll p ts) := by
  cases ts with
  | nil => rfl
  | cons t ts =>
    rw [registering, registerAll, registerKind, if_neg (by simp), Edit.run_bind,
      Edit.run_forM_check]
    -- a fault of the judgements comes before the first change
    cases (t :: ts).forM fun t => s.checkType p.name t with
    | error e => rfl
    | ok u => exact run_binding p.name p.schema (t :: ts) s

/-- A merger in place takes over all bindings or leaves the scheme alone. -/
theorem run_merging (other s : Scheme) : (merging other).run s = s.settled (s.merge other) := by
  rw [merging, merge, Edit.run_bind, Edit.run_forM_check]
  cases other.types.forM fun e => s.checkBinding e.2 e.1 with
  | error e => rfl
  | ok u =>
    exact Edit.run_forM_change (g := fun s e => s.bind e.1 e.2.schema e.2.types)
      (fun e s => run_binding e.1 e.2.schema e.2.types s) other.kinds s

end PluginKit.Scheme
