/-!
# Blank characters

The `White_Space` property of Unicode, and what trimming and splitting by it mean. Identifiers, tags
and header values are trimmed by this rule before they are read.

## Main statements

- `trim_nil`, `trim_eq_self`: trimming leaves a text alone whose ends are not blank.
- `trim_between`: blanks around a text make no difference to what is left of it.
-/

namespace PluginKit.Text

/-- The characters with the property `White_Space`. -/
def isBlank (c : Char) : Bool :=
  let n := c.toNat
  (9 ≤ n && n ≤ 13) || n == 0x20 || n == 0x85 || n == 0xA0 || n == 0x1680 ||
    (0x2000 ≤ n && n ≤ 0x200A) || n == 0x2028 || n == 0x2029 || n == 0x202F || n == 0x205F ||
    n == 0x3000

/-- The characters without the blanks at either end. -/
def trim (s : List Char) : List Char :=
  ((s.dropWhile isBlank).reverse.dropWhile isBlank).reverse

@[simp] theorem trim_nil : trim [] = [] := rfl

/-- A text that neither starts nor ends with a blank is its own trimmed form. -/
theorem trim_eq_self {s : List Char} (head : ∀ c ∈ s.head?, isBlank c = false)
    (last : ∀ c ∈ s.getLast?, isBlank c = false) : trim s = s := by
  have dropped : ∀ l : List Char, (∀ c ∈ l.head?, isBlank c = false) → l.dropWhile isBlank = l := by
    intro l h
    cases l with
    | nil => rfl
    | cons c r => rw [List.dropWhile_cons_of_neg]; simpa using h c (by simp)
  rw [trim, dropped s head, dropped s.reverse (by simpa using last), List.reverse_reverse]

/-- Blanks around a text are trimmed. -/
theorem trim_between {before after : List Char} (s : List Char) (front : ∀ c ∈ before, isBlank c = true)
    (back : ∀ c ∈ after, isBlank c = true) : trim (before ++ (s ++ after)) = trim s := by
  have gone : after.dropWhile isBlank = [] := by
    have whole : (after ++ []).dropWhile isBlank = [] := List.dropWhile_append_of_pos back
    rwa [List.append_nil] at whole
  rw [trim, trim, List.dropWhile_append_of_pos front, List.dropWhile_append]
  split
  -- the text is blank itself
  · next blank => rw [List.isEmpty_iff.1 blank, gone]
  · rw [List.reverse_append, List.dropWhile_append_of_pos fun c member => back c (List.mem_reverse.1 member)]

/-- A string without the blanks at either end. -/
def trimmed (s : String) : String := String.ofList (trim s.toList)

/-! ## Splitting at one character -/

/-- The text before and after the first occurrence of `c`. -/
def splitFirst (c : Char) : List Char → Option (List Char × List Char)
  | [] => none
  | d :: r => if d = c then some ([], r) else (splitFirst c r).map fun p => (d :: p.1, p.2)

/-- The text before and after the last occurrence of `c`. -/
def splitLast (c : Char) : List Char → Option (List Char × List Char)
  | [] => none
  | d :: r =>
    match splitLast c r with
    | some p => some (d :: p.1, p.2)
    | none => if d = c then some ([], r) else none

/-- The pieces between the occurrences of `c`. -/
def splitAll (c : Char) : List Char → List (List Char)
  | [] => [[]]
  | d :: r =>
    match splitAll c r with
    | [] => [[]]
    | p :: ps => if d = c then [] :: p :: ps else (d :: p) :: ps

/-- The two parts of a split and the character between them make the text. -/
theorem eq_append_of_splitFirst {c : Char} {s a b : List Char} (h : splitFirst c s = some (a, b)) :
    s = a ++ c :: b ∧ c ∉ a := by
  induction s generalizing a b with
  | nil => simp [splitFirst] at h
  | cons d r ih =>
    by_cases hd : d = c
    · simp only [splitFirst, if_pos hd, Option.some.injEq, Prod.mk.injEq] at h
      obtain ⟨rfl, rfl⟩ := h
      simp [hd]
    · simp only [splitFirst, if_neg hd, Option.map_eq_some_iff] at h
      obtain ⟨⟨a', b'⟩, hp, heq⟩ := h
      simp only [Prod.mk.injEq] at heq
      obtain ⟨rfl, rfl⟩ := heq
      obtain ⟨rfl, hmem⟩ := ih hp
      simp [hmem, Ne.symm hd]

/-- The text after a last occurrence holds no other. -/
theorem eq_append_of_splitLast {c : Char} {s a b : List Char} (h : splitLast c s = some (a, b)) :
    s = a ++ c :: b ∧ c ∉ b := by
  induction s generalizing a b with
  | nil => simp [splitLast] at h
  | cons d r ih =>
    rw [splitLast] at h
    cases hr : splitLast c r with
    | some p =>
      rw [hr] at h
      simp only [Option.some.injEq, Prod.mk.injEq] at h
      obtain ⟨rfl, rfl⟩ := h
      obtain ⟨he, hmem⟩ := ih hr
      exact ⟨by rw [List.cons_append, ← he], hmem⟩
    | none =>
      rw [hr] at h
      by_cases hd : d = c
      · simp only [if_pos hd, Option.some.injEq, Prod.mk.injEq] at h
        obtain ⟨rfl, rfl⟩ := h
        refine ⟨by simp [hd], ?_⟩
        intro hc
        have found : ∀ l : List Char, c ∈ l → splitLast c l ≠ none := by
          intro l
          induction l with
          | nil => simp
          | cons e l ihl =>
            intro hmem
            rw [splitLast]
            split
            · simp
            · rename_i hnone
              rcases List.mem_cons.1 hmem with rfl | hl
              · simp
              · exact absurd hnone (ihl hl)
        exact found r hc hr
      · simp [if_neg hd] at h

end PluginKit.Text
