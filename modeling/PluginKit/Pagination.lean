import PluginKit.Effect

/-!
# Listing page by page

A list comes in pages, and every page may name the cursor of the next one. Listing hands over page
after page and ends with the page that names no further cursor. It also ends where a plugin
misbehaves: at an empty page that names a cursor, and at a page that names the cursor it was asked
for.

## Main statements

- `follow_ne`: a cursor is never asked for twice in a row.
-/

namespace PluginKit

/-- A page of a list. -/
structure Page (α : Type) where
  items : List α
  next : Option String
  deriving DecidableEq, Repr

namespace Page

variable {σ α : Type}

/-- The cursor to ask for after the page for `last`, unless the page ends the list. -/
def follow (p : Page α) (last : String) : Option String :=
  match p.next with
  | none => none
  | some next => if next = "" ∨ p.items.isEmpty ∨ next = last then none else some next

/-- A cursor is never asked for twice in a row. -/
theorem follow_ne {p : Page α} {last next : String} (h : p.follow last = some next) :
    next ≠ last ∧ next ≠ "" ∧ p.items ≠ [] := by
  unfold follow at h
  split at h
  · cases h
  · split at h
    · cases h
    · next hn =>
      cases h
      simp only [List.isEmpty_iff, not_or] at hn
      exact ⟨hn.2.2, hn.1, hn.2.1⟩

/-- At most `n` pages from a cursor on, each handed to `receive`. The result is the cursor where the
listing stands, or nothing once it has ended. -/
def pages (fetch : String → Effect σ (Page α)) (receive : List α → Effect σ Unit) :
    Nat → String → Effect σ (Option String)
  | 0, cursor => pure (some cursor)
  | n + 1, cursor => do
    let page ← fetch cursor
    receive page.items
    match page.follow cursor with
    | none => pure none
    | some next => pages fetch receive n next

end Page

end PluginKit
