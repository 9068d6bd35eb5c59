import PluginKit.Proofs.TypeId

/-!
# Identifiers without their version

Without its version an identifier is written as what stands before the last slash of its text. That
text is read by the same rule: if a slash is left in it, in the name or in the group, then the last one
of these starts a version again, and what is read is another identifier or nothing at all. So dropping
the version stays within the identifiers that can be read exactly if name and group hold no slash.

## Main statements

- `isVersioned_iff_of_parse`: what is read from a text has a version exactly if there is a slash in it.
- `toList_text_unversioned`: what is written without the version.
- `parseTrimmed_of_not_mem`: a text without a slash is read by its name and its group alone.
- `unversioned_read_iff`: when the text without the version is read as the identifier without it.
-/

namespace PluginKit.TypeId

variable {s : String} {t u : TypeId}

/-! ## The last slash -/

/-- A version is split off exactly if there is a slash. -/
theorem version_eq_nil_iff {flaw : Flaw} {w head version : List Char}
    (split : tail flaw (Text.splitLast '/' w) w = .ok (head, version)) :
    version = [] ↔ '/' ∉ w := by
  by_cases slash : '/' ∈ w
  · obtain ⟨a, b, rfl, after⟩ := Text.eq_append_of_mem_last slash
    rw [Text.splitLast_append a after] at split
    cases b with
    | nil => cases split
    | cons c b =>
      cases split
      exact ⟨fun none => absurd none (List.cons_ne_nil c b), fun absent => absurd slash absent⟩
  · rw [Text.splitLast_of_not_mem slash] at split
    cases split
    exact ⟨fun _ => slash, fun _ => rfl⟩

/-- The part before the version is the text up to its last slash. -/
theorem head_eq_front {flaw : Flaw} {w head version : List Char}
    (split : tail flaw (Text.splitLast '/' w) w = .ok (head, version)) : head = front w := by
  rcases tail_splitLast flaw w with ⟨-, failed⟩ | ⟨-, version', split'⟩
  · cases failed.symm.trans split
  · cases split'.symm.trans split
    rfl

theorem ofList_eq_empty_iff {cs : List Char} : String.ofList cs = "" ↔ cs = [] := by
  rw [← String.toList_inj, String.toList_ofList]
  rfl

/-- An identifier that was read from a text has a version if and only if there is a slash in the text. -/
theorem isVersioned_iff_of_parse (read : parse s = .ok t) :
    t.isVersioned = true ↔ '/' ∈ t.text.toList := by
  rw [text_of_parseTrimmed read]
  rcases parseTrimmed_cases read with ⟨nothing, rfl⟩ | ⟨head, version, name, group, hv, -, -, -, rfl⟩
  · rw [nothing]
    exact ⟨nofun, nofun⟩
  · have versioned : isVersioned ⟨String.ofList group, String.ofList name, String.ofList version⟩ =
        true ↔ version ≠ [] := by
      rw [isVersioned, bne_iff_ne, ne_eq, ofList_eq_empty_iff]
    rw [versioned, ne_eq, version_eq_nil_iff hv, Decidable.not_not]

/-! ## Texts without a version -/

/-- The text of an identifier without a version has a slash only if its name or its group has one. -/
theorem slash_mem_text_unversioned :
    '/' ∈ t.unversioned.text.toList ↔ '/' ∈ t.name.toList ∨ '/' ∈ t.group.toList := by
  have dot : '/' ∉ ".".toList := by decide
  have parts : t.unversioned.text.toList =
      t.name.toList ++ (if t.group = "" then "" else "." ++ t.group).toList := by
    rw [text, String.toList_append, String.toList_append, unversioned, if_pos rfl]
    exact List.append_nil _
  rw [parts, List.mem_append]
  split
  · next ungrouped => rw [ungrouped]
  · rw [String.toList_append, List.mem_append, or_iff_right dot]

/-- The text of an identifier without its version is the part of the text before the last slash. -/
theorem toList_text_unversioned (read : parse s = .ok t) :
    t.unversioned.text.toList = front (Text.trim s.toList) := by
  rcases parseTrimmed_cases read with ⟨nothing, rfl⟩ | ⟨head, version, name, group, hv, hg, -, -, rfl⟩
  · rw [nothing]
    rfl
  -- name and group make up the text before the version
  · have whole := eq_append_of_tail (c := '.') hg fun a b => (Text.eq_append_of_splitFirst · |>.1)
    rw [← head_eq_front hv, whole, text, String.toList_append, String.toList_append, unversioned,
      toList_part, String.toList_ofList, if_pos rfl]
    exact List.append_nil _

/-- A text without a slash is read by its name and its group alone. -/
theorem parseTrimmed_of_not_mem {w name group : List Char} (slashless : '/' ∉ w)
    (split : tail .emptyGroup (Text.splitFirst '.' w) w = .ok (name, group)) (named : name ≠ [])
    (plain : ∀ c ∈ w, Text.isBlank c = false) :
    parseTrimmed w = .ok ⟨String.ofList group, String.ofList name, ""⟩ := by
  have filled : w ≠ [] := by
    rintro rfl
    cases split
    exact named rfl
  have nameless : name.isEmpty = false := by simpa using named
  have unblank : w.any Text.isBlank = false := by simpa using plain
  have whole : tail .emptyVersion (Text.splitLast '/' w) w = .ok (w, []) := by
    rw [Text.splitLast_of_not_mem slashless]
    rfl
  rw [parseTrimmed, if_neg (by simpa using filled)]
  simp only [whole, split, nameless, unblank, bind, Except.bind]
  rfl

/-- The text without the version holds no blank, since it is part of the text with the version. -/
theorem plain_text_unversioned (read : parse s = .ok t) :
    ∀ c ∈ t.unversioned.text.toList, Text.isBlank c = false := by
  intro c mem
  rw [toList_text_unversioned read] at mem
  rcases parseTrimmed_cases read with ⟨nothing, -⟩ | ⟨head, version, name, group, hv, -, -, plain, -⟩
  · rw [nothing] at mem
    cases mem
  · apply plain
    rw [← head_eq_front hv] at mem
    rw [eq_append_of_tail (c := '/') hv fun a b => (Text.eq_append_of_splitLast · |>.1)]
    exact List.mem_append_left _ mem

theorem trim_text_unversioned (read : parse s = .ok t) :
    Text.trim t.unversioned.text.toList = t.unversioned.text.toList := by
  have plain := plain_text_unversioned read
  apply Text.trim_eq_self
  · intro c first
    exact plain c (List.mem_of_mem_head? first)
  · intro c last
    exact plain c (List.mem_of_mem_getLast? last)

/-- If no slash is left, the text without the version is read as the identifier without it. -/
theorem parse_text_unversioned (read : parse s = .ok t) (slashless : '/' ∉ t.unversioned.text.toList) :
    parse t.unversioned.text = .ok t.unversioned := by
  have plain := plain_text_unversioned read
  rw [parse, trim_text_unversioned read]
  rw [toList_text_unversioned read] at slashless plain ⊢
  rcases parseTrimmed_cases read with ⟨nothing, rfl⟩ | ⟨head, version, name, group, hv, hg, named, -, rfl⟩
  · rw [nothing]
    rfl
  · rw [← head_eq_front hv] at slashless plain ⊢
    exact parseTrimmed_of_not_mem slashless hg named plain

/-- An identifier without a version that can be read has no slash in its text. -/
theorem not_mem_of_parse_unversioned (again : parse t.unversioned.text = .ok t.unversioned) :
    '/' ∉ t.unversioned.text.toList := by
  intro slash
  have versioned := (isVersioned_iff_of_parse again).2 slash
  cases versioned

/-- An identifier that was read is written without its version as what stands before the last slash of its
text. This is read as the identifier without its version if and only if neither name nor group holds a
slash. Otherwise whatever is read from it has a version, so it is another identifier that is written in
the same way. -/
theorem unversioned_read_iff (read : parse s = .ok t) :
    t.unversioned.text = String.ofList (front (Text.trimmed s).toList) ∧
      (parse t.unversioned.text = .ok t.unversioned ↔
        '/' ∉ t.name.toList ∧ '/' ∉ t.group.toList) ∧
      ∀ u, parse t.unversioned.text = .ok u → u ≠ t.unversioned →
        u.isVersioned = true ∧ u.text = t.unversioned.text := by
  refine ⟨?_, ?_, ?_⟩
  · rw [← String.toList_inj, String.toList_ofList, toList_text_unversioned read, Text.trimmed,
      String.toList_ofList]
  · rw [← not_or, ← slash_mem_text_unversioned]
    constructor
    · intro again
      exact not_mem_of_parse_unversioned again
    · intro slashless
      exact parse_text_unversioned read slashless
  · intro u other differs
    -- without a slash the text would be read as the identifier itself
    have slash : '/' ∈ t.unversioned.text.toList := by
      apply Decidable.byContradiction
      intro slashless
      rw [parse_text_unversioned read slashless] at other
      cases other
      exact differs rfl
    have same : u.text = t.unversioned.text := by
      rw [text_of_parse other, Text.trimmed, trim_text_unversioned read, String.ofList_toList]
    exact ⟨(isVersioned_iff_of_parse other).2 (same ▸ slash), same⟩

/-- With a group the text without the version is read as the identifier without it, blanks around the
text and dots in the group notwithstanding. -/
theorem grouped_unversioned_read :
    parse " helm.access.ocm.software/v1 " = .ok ⟨"access.ocm.software", "helm", "v1"⟩ ∧
      parse "helm.access.ocm.software" = .ok ⟨"access.ocm.software", "helm", ""⟩ := by
  have read : parse " helm.access.ocm.software/v1 " = .ok ⟨"access.ocm.software", "helm", "v1"⟩ := rfl
  obtain ⟨-, back, -⟩ := unversioned_read_iff read
  exact ⟨read, back.2 ⟨by decide, by decide⟩⟩

/-- With a slash in the name the text without the version is read with another version. -/
theorem nested_unversioned_misread :
    ¬ ∀ s t, parse s = .ok t → parse t.unversioned.text = .ok t.unversioned := by
  intro keeps
  have read : parse "a/b/v1" = .ok ⟨"", "a/b", "v1"⟩ := rfl
  have misread : parse "a/b" = .ok ⟨"", "a", "b"⟩ := rfl
  have kept : parse "a/b" = .ok ⟨"", "a/b", ""⟩ :=
    keeps "a/b/v1" ⟨"", "a/b", "v1"⟩ read
  have same := Except.ok.inj (misread.symm.trans kept)
  exact absurd (congrArg name same) (by decide)

end PluginKit.TypeId
