import PluginKit.Path

/-!
# Files in a directory

A name that is joined to a directory becomes the last component of the path, whether or not the text of
the directory ends in a slash, and the directory is where the path lies.

## Main statements

- `splitAll_append`: the pieces of a text are those before a mark and those after it.
- `components_join`, `parent?_join`: where a name lies that is joined to a directory.
-/

namespace PluginKit

namespace Text

variable {c : Char}

theorem splitAll_ne_nil (s : List Char) : splitAll c s ≠ [] := by
  cases s with
  | nil => exact nofun
  | cons d r =>
    rw [splitAll]
    split
    · exact nofun
    · split <;> exact nofun

theorem splitAll_cons {d : Char} {r p : List Char} {ps : List (List Char)}
    (rest : splitAll c r = p :: ps) :
    splitAll c (d :: r) = if d = c then [] :: p :: ps else (d :: p) :: ps := by
  rw [splitAll, rest]

/-- The pieces of a text are those before a mark and those after it. -/
theorem splitAll_append (a b : List Char) : splitAll c (a ++ c :: b) = splitAll c a ++ splitAll c b := by
  obtain ⟨q, qs, last⟩ := List.exists_cons_of_ne_nil (splitAll_ne_nil (c := c) b)
  induction a with
  | nil => rw [List.nil_append, splitAll_cons last, if_pos rfl, last]; rfl
  | cons d a ih =>
    obtain ⟨p, ps, first⟩ := List.exists_cons_of_ne_nil (splitAll_ne_nil (c := c) a)
    rw [first] at ih
    rw [List.cons_append, splitAll_cons ih, splitAll_cons first]
    split <;> rfl

/-- A text without the mark is one piece. -/
theorem splitAll_of_not_mem {s : List Char} (absent : c ∉ s) : splitAll c s = [s] := by
  induction s with
  | nil => rfl
  | cons d s ih =>
    rw [List.mem_cons, not_or] at absent
    rw [splitAll_cons (ih absent.2), if_neg (Ne.symm absent.1)]

end Text

namespace Path

/-- A text that names something in a directory. -/
structure Names (name : String) : Prop where
  within : '/' ∉ name.toList
  some_ : name ≠ ""
  other : name ≠ "."
  inner : name ≠ ".."

variable {place name : String}

/-- The components among the pieces between slashes. -/
def tidy : List String → List String
  | "." :: rest => "." :: rest.filter fun n => n != "" && n != "."
  | names => names.filter fun n => n != "" && n != "."

theorem components_eq (p : String) :
    components p = tidy ((Text.splitAll '/' p.toList).map String.ofList) := rfl

theorem tidy_append {pieces : List String} (some_ : pieces ≠ []) (more : List String) :
    tidy (pieces ++ more) = tidy pieces ++ more.filter fun n => n != "" && n != "." := by
  obtain ⟨first, rest, rfl⟩ := List.exists_cons_of_ne_nil some_
  by_cases here : first = "."
  · subst here
    exact congrArg ("." :: ·) (List.filter_append ..)
  · rw [List.cons_append, tidy, tidy, ← List.cons_append, List.filter_append]
    · exact fun r same => here (List.cons.inj same).1
    · exact fun r same => here (List.cons.inj same).1

theorem Names.filter (names : Names name) :
    [name].filter (fun n => n != "" && n != ".") = [name] := by
  simp [names.some_, names.other]

theorem Names.not_isAbsolute (names : Names name) : isAbsolute name = false := by
  unfold isAbsolute
  cases chars : name.toList with
  | nil => rfl
  | cons c r =>
    have ne : c ≠ '/' := by
      rintro rfl
      exact names.within (chars ▸ List.mem_cons_self)
    simpa using ne

/-- A name that is joined to a directory becomes the last component of the path. -/
theorem components_join (names : Names name) (place : String) :
    components (join place name) = components place ++ [name] := by
  have one : (Text.splitAll '/' name.toList).map String.ofList = [name] := by
    rw [Text.splitAll_of_not_mem names.within, List.map_singleton, String.ofList_toList]
  have pieces (s : List Char) : (Text.splitAll '/' s).map String.ofList ≠ [] :=
    fun none_ => Text.splitAll_ne_nil s (List.map_eq_nil_iff.1 none_)
  -- whatever stands before the last slash, the name is a piece of its own after it
  have after (front : List Char) :
      tidy ((Text.splitAll '/' (front ++ '/' :: name.toList)).map String.ofList) =
        tidy ((Text.splitAll '/' front).map String.ofList) ++ [name] := by
    rw [Text.splitAll_append, List.map_append, one, tidy_append (pieces front), names.filter]
  rw [join, if_neg (by rw [names.not_isAbsolute]; exact Bool.false_ne_true)]
  by_cases nowhere : place = ""
  · subst nowhere
    rw [if_pos (.inl rfl), String.empty_append, components_eq, one, tidy]
    · exact names.filter
    · exact fun r same => names.other (List.cons.inj same).1
  · by_cases slash : place.toList.getLast? = some '/'
    · obtain ⟨front, whole⟩ := List.getLast?_eq_some_iff.1 slash
      have place_ : components place = tidy ((Text.splitAll '/' front).map String.ofList) := by
        rw [components_eq, whole, Text.splitAll_append, List.map_append, tidy_append (pieces front)]
        exact List.append_nil _
      rw [if_pos (.inr slash), place_, ← after, components_eq, String.toList_append, whole,
        List.append_assoc, List.singleton_append]
    · rw [if_neg (not_or.2 ⟨nowhere, slash⟩), components_eq, components_eq, ← after,
        String.toList_append, String.toList_append, List.append_assoc]
      rfl

theorem isAbsolute_join (names : Names name) (place : String) :
    isAbsolute (join place name) = isAbsolute place := by
  have relative := names.not_isAbsolute
  rw [join, if_neg (by rw [relative]; exact Bool.false_ne_true)]
  by_cases nowhere : place = ""
  · subst nowhere
    rw [if_pos (.inl rfl), String.empty_append, relative]
    rfl
  · have start (more : String) : isAbsolute (place ++ more) = isAbsolute place := by
      obtain ⟨c, r, chars⟩ := List.exists_cons_of_ne_nil (l := place.toList) (by simpa using nowhere)
      simp [isAbsolute, chars]
    split
    · exact start name
    · rw [String.append_assoc]
      exact start _

/-- A name that is joined to a directory lies in it. -/
theorem parent?_join (names : Names name) (place : String) :
    parent? (join place name) = some (ofComponents (isAbsolute place) (components place)) := by
  unfold parent?
  rw [components_join names, isAbsolute_join names]
  split
  · next none_ => exact absurd none_ (List.concat_ne_nil _ _)
  · rw [List.dropLast_concat]

end Path

end PluginKit
