import PluginKit.Pagination
import PluginKit.Proofs.Effect

/-!
# What happens in a listing

A listing is watched: a note is made of every cursor that a page is asked for with and of every page
that is handed over. Watching changes nothing else, so the notes tell what happens in the listing when
nobody watches.

## Main statements

- `run_watched_succ`: what happens with one page, and how the listing goes on after it.
- `run_watched`: watching changes neither what a listing gives nor the world that it leaves.
- `kept_pages`: where each fetch leaves something behind, there is one for each page asked for.
- `run_pages_last`, `run_pages_next`: the page that ends a listing, and one that does not.
-/

namespace PluginKit

variable {σ α β : Type}

/-- An operation of which something is noted down before anything else. -/
def Effect.jotting {ν : Type} (note : ν) (e : Effect σ β) : Effect (σ × List ν) β :=
  .ofFunction fun w => ((e.run w.1).1, (e.run w.1).2, w.2 ++ [note])

theorem Effect.run_jotting {ν : Type} (note : ν) (e : Effect σ β) (w : σ) (notes : List ν) :
    (e.jotting note).run (w, notes) = ((e.run w).1, (e.run w).2, notes ++ [note]) := rfl

namespace Page

/-! ## Notes -/

/-- An event in a listing: a page is asked for, or one is handed over. -/
inductive Moment (α : Type) where
  /-- The page after a cursor is asked for. -/
  | asked (cursor : String)
  /-- The items of a page are handed over. -/
  | handed (items : List α)
  deriving DecidableEq

/-- The cursor that is asked for. -/
def Moment.cursor? : Moment α → Option String
  | .asked cursor => some cursor
  | .handed _ => none

/-- The items that are handed over. -/
def Moment.items? : Moment α → Option (List α)
  | .asked _ => none
  | .handed items => some items

/-- The cursors that were asked for, one for every page that was fetched. -/
def cursors (notes : List (Moment α)) : List String := notes.filterMap Moment.cursor?

/-- The pages that were handed over. -/
def handovers (notes : List (Moment α)) : List (List α) := notes.filterMap Moment.items?

section Watching

variable (fetch : String → Effect σ (Page α)) (receive : List α → Effect σ Unit)

/-- At most `n` pages from a cursor on, with a note of all that happens. -/
def watched (n : Nat) (cursor : String) : Effect (σ × List (Moment α)) (Option String) :=
  pages (fun cursor => (fetch cursor).jotting (.asked cursor))
    (fun items => (receive items).jotting (.handed items)) n cursor

/-- The events of a listing that begins in the world `w`. -/
def trace (n : Nat) (cursor : String) (w : σ) : List (Moment α) :=
  ((watched fetch receive n cursor).run (w, [])).2.2

/-- The events of one page, and how the listing goes on after it. -/
theorem run_watched_succ (n : Nat) (cursor : String) (w : σ) (notes : List (Moment α)) :
    (watched fetch receive (n + 1) cursor).run (w, notes) =
      match (fetch cursor).run w with
      | (.error fault, w) => (.error fault, w, notes ++ [.asked cursor])
      | (.ok page, w) =>
        match (receive page.items).run w with
        | (.error fault, w) => (.error fault, w, notes ++ [.asked cursor, .handed page.items])
        | (.ok (), w) =>
          match page.follow cursor with
          | none => (.ok none, w, notes ++ [.asked cursor, .handed page.items])
          | some next =>
            (watched fetch receive n next).run
              (w, notes ++ [.asked cursor, .handed page.items]) := by
  rw [watched, pages, Effect.run_bind, Effect.run_jotting]
  rcases (fetch cursor).run w with ⟨fault | page, w₁⟩
  · rfl
  · simp only
    rw [Effect.run_bind, Effect.run_jotting]
    rcases (receive page.items).run w₁ with ⟨fault | ⟨⟨⟩⟩, w₂⟩
    · simp only [List.append_assoc, List.cons_append, List.nil_append]
    · simp only [List.append_assoc, List.cons_append, List.nil_append]
      cases page.follow cursor with
      | none => rfl
      | some next => rfl

/-- Watching changes neither what a listing gives nor the world that it leaves, and what has been noted
before has no part in it. -/
theorem run_watched (n : Nat) (cursor : String) (w : σ) (notes : List (Moment α)) :
    (watched fetch receive n cursor).run (w, notes) =
      (((pages fetch receive n cursor).run w).1, ((pages fetch receive n cursor).run w).2,
        notes ++ trace fetch receive n cursor w) := by
  induction n generalizing cursor w notes with
  | zero =>
    show ((.ok (some cursor), w, notes) : Outcome (Option String) × σ × List (Moment α)) =
      (.ok (some cursor), w, notes ++ [])
    rw [List.append_nil]
  | succ n ih =>
    rw [trace, run_watched_succ, run_watched_succ, pages, Effect.run_bind]
    rcases (fetch cursor).run w with ⟨fault | page, w₁⟩
    · rfl
    · simp only
      rw [Effect.run_bind]
      rcases (receive page.items).run w₁ with ⟨fault | ⟨⟨⟩⟩, w₂⟩
      · rfl
      · simp only
        cases page.follow cursor with
        | none => rfl
        | some next =>
          -- the rest of the listing begins with the notes made up to here
          simp only
          rw [ih next w₂ (notes ++ _), ih next w₂ ([] ++ _), List.append_assoc]
          rfl

end Watching

/-! ## What fetching leaves behind -/

/-- Where every fetch adds one to what is kept of a world, and receiving adds nothing, a listing adds one
for each page that it asks for, in this order. What is added may depend on how many were added before. -/
theorem kept_pages {ν : Type} {fetch : String → Effect σ (Page α)} {receive : List α → Effect σ Unit}
    (kept : σ → List ν) (count : σ → Nat) (ready : σ → Prop) (f : String → Nat → ν)
    (fetched : ∀ cursor w, ready w → ready ((fetch cursor).run w).2 ∧
      kept ((fetch cursor).run w).2 = kept w ++ [f cursor (count w)] ∧
      count ((fetch cursor).run w).2 = count w + 1)
    (received : ∀ items w, ready w → ready ((receive items).run w).2 ∧
      kept ((receive items).run w).2 = kept w ∧ count ((receive items).run w).2 = count w)
    (n : Nat) (cursor : String) (w : σ) (start : ready w) :
    kept ((pages fetch receive n cursor).run w).2 =
      kept w ++ ((cursors (trace fetch receive n cursor w)).zipIdx (count w)).map
        fun e => f e.1 e.2 := by
  induction n generalizing cursor w with
  | zero => exact (List.append_nil _).symm
  | succ n ih =>
    obtain ⟨goes, added, more⟩ := fetched cursor w start
    rw [trace, run_watched_succ, pages, Effect.run_bind]
    generalize (fetch cursor).run w = first at goes added more
    obtain ⟨fault | page, w₁⟩ := first
    · exact added
    · obtain ⟨goes', still, same⟩ := received page.items w₁ goes
      simp only
      rw [Effect.run_bind]
      generalize (receive page.items).run w₁ = second at goes' still same
      obtain ⟨fault | ⟨⟨⟩⟩, w₂⟩ := second
      · exact still.trans added
      · simp only
        cases page.follow cursor with
        | none => exact still.trans added
        | some next =>
          simp only
          rw [ih next w₂ goes', run_watched, still, added, same, more, List.append_assoc]
          rfl

/-! ## One page that is taken -/

section Taken

variable {fetch : String → Effect σ (Page α)} {receive : List α → Effect σ Unit}
variable {cursor : String} {page : Page α} {w w₁ w₂ : σ}

/-- A page that has been fetched and received, and that names no further cursor, ends the listing. -/
theorem run_pages_last (fetched : (fetch cursor).run w = (.ok page, w₁))
    (received : (receive page.items).run w₁ = (.ok (), w₂)) (last : page.follow cursor = none)
    (n : Nat) :
    (pages fetch receive (n + 1) cursor).run w = (.ok none, w₂) ∧
      trace fetch receive (n + 1) cursor w = [.asked cursor, .handed page.items] := by
  have step := run_watched_succ fetch receive n cursor w []
  rw [run_watched, fetched] at step
  simp only [received, last, List.nil_append, Prod.mk.injEq] at step
  exact ⟨Prod.ext step.1 step.2.1, step.2.2⟩

/-- After a page that has been fetched and received the listing goes on with the cursor that it
names. -/
theorem run_pages_next {next : String} (fetched : (fetch cursor).run w = (.ok page, w₁))
    (received : (receive page.items).run w₁ = (.ok (), w₂)) (more : page.follow cursor = some next)
    (n : Nat) :
    (pages fetch receive (n + 1) cursor).run w = (pages fetch receive n next).run w₂ ∧
      trace fetch receive (n + 1) cursor w =
        .asked cursor :: .handed page.items :: trace fetch receive n next w₂ := by
  have step := run_watched_succ fetch receive n cursor w []
  rw [run_watched, fetched] at step
  simp only [received, more, List.nil_append] at step
  rw [run_watched, Prod.mk.injEq, Prod.mk.injEq] at step
  exact ⟨Prod.ext step.1 step.2.1, step.2.2⟩

end Taken

end Page

end PluginKit
