import PluginKit.Scheme.Fault

/-!
# Identifiers and their text

An identifier that was read is written as the text that it was read from, without the blanks around
it, and that text reads as the same identifier again. Which texts can be read is said without the
reader: by what stands before the last slash and around the first dot.

## Main statements

- `text_of_parse`: the text of what was read is the trimmed text.
- `parse_text`: the text of an identifier that was read reads as the identifier.
- `parseTrimmed_iff`: the trimmed texts that can be read.
- `read_as_printed`: reading and printing are inverse to each other on these texts.
-/

namespace PluginKit.Text

/-! ## Where a text splits -/

theorem splitFirst_append {c : Char} {a : List Char} (before : c ∉ a) (b : List Char) :
    splitFirst c (a ++ c :: b) = some (a, b) := by
  induction a with
  | nil => exact if_pos rfl
  | cons d a ih =>
    have other : d ≠ c := fun same => before (same ▸ List.mem_cons_self)
    rw [List.cons_append, splitFirst, if_neg other,
      ih fun mem => before (List.mem_cons_of_mem d mem)]
    rfl

theorem splitFirst_of_not_mem {c : Char} {s : List Char} (absent : c ∉ s) :
    splitFirst c s = none := by
  cases split : splitFirst c s with
  | none => rfl
  | some p =>
    obtain ⟨rfl, -⟩ := eq_append_of_splitFirst (a := p.1) (b := p.2) split
    exact absurd (List.mem_append_right _ List.mem_cons_self) absent

theorem splitLast_of_not_mem {c : Char} {s : List Char} (absent : c ∉ s) :
    splitLast c s = none := by
  cases split : splitLast c s with
  | none => rfl
  | some p =>
    obtain ⟨rfl, -⟩ := eq_append_of_splitLast (a := p.1) (b := p.2) split
    exact absurd (List.mem_append_right _ List.mem_cons_self) absent

theorem splitLast_append (a : List Char) {c : Char} {b : List Char} (after : c ∉ b) :
    splitLast c (a ++ c :: b) = some (a, b) := by
  induction a with
  | nil =>
    rw [List.nil_append, splitLast, splitLast_of_not_mem after]
    exact if_pos rfl
  | cons d a ih => rw [List.cons_append, splitLast, ih]

/-- A text that holds a character splits into what stands before the last one and after it. -/
theorem eq_append_of_mem_last {c : Char} {s : List Char} (mem : c ∈ s) :
    ∃ a b, s = a ++ c :: b ∧ c ∉ b := by
  obtain ⟨b, a, reversed, after⟩ := List.eq_append_cons_of_mem (List.mem_reverse.2 mem)
  refine ⟨a.reverse, b.reverse, ?_, fun mem => after (List.mem_reverse.1 mem)⟩
  rw [← s.reverse_reverse, reversed]
  simp

end PluginKit.Text

namespace PluginKit.TypeId

/-- Identifiers that can be read from some text. -/
def Parsed (t : TypeId) : Prop := ∃ s, parse s = .ok t

/-- A part with the separator before it, or nothing for an empty part. -/
theorem toList_part (separator : String) (part : List Char) :
    (if String.ofList part = "" then "" else separator ++ String.ofList part).toList =
      if part = [] then [] else separator.toList ++ part := by
  by_cases h : part = []
  · subst h
    rfl
  · have ne : String.ofList part ≠ "" := by
      intro heq
      apply h
      rw [← String.toList_ofList (l := part), heq]
      rfl
    rw [if_neg ne, if_neg h, String.toList_append, String.toList_ofList]

/-- The parts that `tail` gives, with the separator between them, are the text. -/
theorem eq_append_of_tail {flaw : Flaw} {c : Char} {split : Option (List Char × List Char)}
    {s before after : List Char} (h : tail flaw split s = .ok (before, after))
    (parts : ∀ a b, split = some (a, b) → s = a ++ c :: b) :
    s = before ++ if after = [] then [] else c :: after := by
  unfold tail at h
  split at h
  · simp only [Except.ok.injEq, Prod.mk.injEq] at h
    obtain ⟨rfl, rfl⟩ := h
    simp
  · cases h
  · next a b ne =>
    simp only [Except.ok.injEq, Prod.mk.injEq] at h
    obtain ⟨rfl, rfl⟩ := h
    rw [if_neg ne]
    exact parts _ _ rfl

/-- The identifier that is read from trimmed text: the empty one from the empty text, and otherwise its
parts, of which the name is not empty and none holds a blank. -/
theorem parseTrimmed_cases {u : List Char} {t : TypeId} (h : parseTrimmed u = .ok t) :
    (u = [] ∧ t = empty) ∨
      ∃ head version name group,
        tail .emptyVersion (Text.splitLast '/' u) u = .ok (head, version) ∧
        tail .emptyGroup (Text.splitFirst '.' head) head = .ok (name, group) ∧
        name ≠ [] ∧ (∀ c ∈ u, Text.isBlank c = false) ∧
        t = ⟨String.ofList group, String.ofList name, String.ofList version⟩ := by
  unfold parseTrimmed at h
  split at h
  · next hu =>
    cases h
    exact Or.inl ⟨List.isEmpty_iff.1 hu, rfl⟩
  -- the version is split off first, then the group
  · cases hv : tail .emptyVersion (Text.splitLast '/' u) u with
    | error e => rw [hv] at h; cases h
    | ok p =>
      obtain ⟨head, version⟩ := p
      rw [hv] at h
      cases hg : tail .emptyGroup (Text.splitFirst '.' head) head with
      | error e => simp [hg, bind, Except.bind] at h
      | ok q =>
        obtain ⟨name, group⟩ := q
        simp only [hg, bind, Except.bind] at h
        split at h
        · cases h
        next named =>
        split at h
        · cases h
        next plain =>
        cases h
        exact Or.inr ⟨head, version, name, group, rfl, hg, by simpa using named, by simpa using plain,
          rfl⟩

/-- An identifier that was read from trimmed text has that text. -/
theorem text_of_parseTrimmed {u : List Char} {t : TypeId} (h : parseTrimmed u = .ok t) :
    t.text.toList = u := by
  rcases parseTrimmed_cases h with ⟨rfl, rfl⟩ | ⟨head, version, name, group, hv, hg, -, -, rfl⟩
  · rfl
  -- each separator is written where it was split
  · have whole := eq_append_of_tail (c := '/') hv fun a b => (Text.eq_append_of_splitLast · |>.1)
    have front := eq_append_of_tail (c := '.') hg fun a b => (Text.eq_append_of_splitFirst · |>.1)
    rw [text, String.toList_append, String.toList_append, toList_part, toList_part,
      String.toList_ofList, whole, front]
    rfl

/-- Only the empty identifier is read without a name. -/
theorem eq_empty_of_isEmpty {t : TypeId} (h : t.Parsed) (noName : t.isEmpty = true) : t = empty := by
  obtain ⟨s, hs⟩ := h
  rcases parseTrimmed_cases hs with ⟨-, rfl⟩ | ⟨head, version, name, group, -, -, named, -, rfl⟩
  · rfl
  · refine absurd ?_ named
    have blank : String.ofList name = "" := beq_iff_eq.1 noName
    rw [← String.toList_ofList (l := name), blank]
    rfl

/-- The text of what was read is the trimmed text. -/
theorem text_of_parse {s : String} {t : TypeId} (h : parse s = .ok t) : t.text = Text.trimmed s := by
  rw [← String.toList_inj, Text.trimmed, String.toList_ofList]
  exact text_of_parseTrimmed h

/-- Trimmed text that reads as an identifier has nothing left to trim. -/
theorem trim_of_parseTrimmed {u : List Char} {t : TypeId} (h : parseTrimmed u = .ok t) :
    Text.trim u = u := by
  rcases parseTrimmed_cases h with ⟨rfl, -⟩ | ⟨-, -, -, -, -, -, -, plain, -⟩
  · rfl
  · refine Text.trim_eq_self ?_ ?_
    · exact fun c hc => plain c (List.mem_of_mem_head? hc)
    · exact fun c hc => plain c (List.mem_of_mem_getLast? hc)

/-- The text of an identifier that was read reads as the identifier. -/
theorem parse_text {t : TypeId} (h : t.Parsed) : parse t.text = .ok t := by
  obtain ⟨s, hs⟩ := h
  rw [parse, text_of_parseTrimmed hs, trim_of_parseTrimmed hs]
  exact hs

theorem read_text {t : TypeId} (h : t.Parsed) : read t.text = .ok t := by
  rw [read, parse_text h]

/-! ## Texts that can be read -/

/-- The part of a text before its last slash, or all of it where there is none. -/
def front (u : List Char) : List Char :=
  if '/' ∈ u then ((u.reverse.dropWhile (· != '/')).drop 1).reverse else u

/-- The trimmed texts of identifiers: there is no blank and no slash at the end, and what stands before
the last slash has a name before its first dot and does not end with this dot. -/
structure WellFormed (u : List Char) : Prop where
  plain : ∀ c ∈ u, Text.isBlank c = false
  versioned : u.getLast? ≠ some '/'
  named : (front u).takeWhile (· != '.') ≠ []
  grouped : (front u).dropWhile (· != '.') ≠ ['.']

theorem front_append (a : List Char) {b : List Char} (after : '/' ∉ b) :
    front (a ++ '/' :: b) = a := by
  have passed : ∀ c ∈ b.reverse, (c != '/') = true := fun c mem =>
    bne_iff_ne.2 fun same => after (same ▸ List.mem_reverse.1 mem)
  rw [front, if_pos (List.mem_append_right _ List.mem_cons_self), List.reverse_append,
    List.reverse_cons, List.append_assoc, List.dropWhile_append_of_pos passed]
  simp

/-- The version is split off unless the text ends with a slash. -/
theorem tail_splitLast (flaw : Flaw) (u : List Char) :
    (u.getLast? = some '/' ∧ tail flaw (Text.splitLast '/' u) u = .error flaw) ∨
      (u.getLast? ≠ some '/' ∧
        ∃ version, tail flaw (Text.splitLast '/' u) u = .ok (front u, version)) := by
  by_cases slash : '/' ∈ u
  · obtain ⟨a, b, rfl, after⟩ := Text.eq_append_of_mem_last slash
    rw [Text.splitLast_append a after, front_append a after]
    cases b with
    | nil => exact .inl ⟨by simp, rfl⟩
    | cons c b =>
      refine .inr ⟨fun last => after ?_, c :: b, rfl⟩
      rw [List.getLast?_append, List.getLast?_cons_cons] at last
      cases end_ : (c :: b).getLast? with
      | none => simp at end_
      | some d =>
        rw [end_, Option.some_or] at last
        cases last
        exact List.mem_of_getLast? end_
  · refine .inr ⟨fun last => slash (List.mem_of_getLast? last), [], ?_⟩
    rw [Text.splitLast_of_not_mem slash, tail, front, if_neg slash]

/-- The group is split off unless the text ends with its first dot. -/
theorem tail_splitFirst (flaw : Flaw) (u : List Char) :
    (u.dropWhile (· != '.') = ['.'] ∧ tail flaw (Text.splitFirst '.' u) u = .error flaw) ∨
      (u.dropWhile (· != '.') ≠ ['.'] ∧ ∃ group,
        tail flaw (Text.splitFirst '.' u) u = .ok (u.takeWhile (· != '.'), group)) := by
  have passed {a : List Char} (before : '.' ∉ a) : ∀ c ∈ a, (c != '.') = true := fun c mem =>
    bne_iff_ne.2 fun same => before (same ▸ mem)
  by_cases dot : '.' ∈ u
  · obtain ⟨a, b, rfl, before⟩ := List.eq_append_cons_of_mem dot
    rw [Text.splitFirst_append before, List.dropWhile_append_of_pos (passed before),
      List.takeWhile_append_of_pos (passed before)]
    cases b with
    | nil => exact .inl ⟨by simp, rfl⟩
    | cons c b => exact .inr ⟨by simp, c :: b, by simp [tail]⟩
  · have whole : (u ++ []).takeWhile (· != '.') = u ++ [] :=
      List.takeWhile_append_of_pos (passed dot)
    have nothing : (u ++ []).dropWhile (· != '.') = [] :=
      List.dropWhile_append_of_pos (passed dot)
    rw [List.append_nil] at whole nothing
    refine .inr ⟨by simp [nothing], [], ?_⟩
    rw [Text.splitFirst_of_not_mem dot, tail, whole]

/-- The trimmed texts that can be read: the empty one and those that are well formed. -/
theorem parseTrimmed_iff (u : List Char) :
    (∃ t, parseTrimmed u = .ok t) ↔ u = [] ∨ WellFormed u := by
  constructor
  · rintro ⟨t, read⟩
    rcases parseTrimmed_cases read with ⟨rfl, -⟩ | ⟨head, version, name, group, hv, hg, named, plain, -⟩
    · exact .inl rfl
    rcases tail_splitLast .emptyVersion u with ⟨-, failed⟩ | ⟨versioned, v, split⟩
    · cases failed.symm.trans hv
    cases split.symm.trans hv
    rcases tail_splitFirst .emptyGroup (front u) with ⟨-, failed⟩ | ⟨grouped, g, split⟩
    · cases failed.symm.trans hg
    cases split.symm.trans hg
    exact .inr ⟨plain, versioned, named, grouped⟩
  · rintro (rfl | formed)
    · exact ⟨empty, rfl⟩
    rcases tail_splitLast .emptyVersion u with ⟨slash, -⟩ | ⟨-, version, hv⟩
    · exact absurd slash formed.versioned
    rcases tail_splitFirst .emptyGroup (front u) with ⟨dot, -⟩ | ⟨-, group, hg⟩
    · exact absurd dot formed.grouped
    have named : ((front u).takeWhile (· != '.')).isEmpty = false := by
      simpa using formed.named
    have plain : u.any Text.isBlank = false := by
      simpa using formed.plain
    unfold parseTrimmed
    split
    · exact ⟨empty, rfl⟩
    · refine ⟨⟨String.ofList group, String.ofList ((front u).takeWhile (· != '.')),
        String.ofList version⟩, ?_⟩
      simp only [hv, hg, named, plain, bind, Except.bind]
      rfl

/-- Reading and printing are inverse to each other. A text can be read if and only if its trimmed form
is empty or well formed; what was read is printed as the trimmed text and read again from that; and two
texts are read as the same identifier if and only if their trimmed forms are the same. -/
theorem read_as_printed (s : String) :
    ((∃ t, parse s = .ok t) ↔ Text.trimmed s = "" ∨ WellFormed (Text.trimmed s).toList) ∧
      ∀ t, parse s = .ok t → t.text = Text.trimmed s ∧ parse t.text = .ok t ∧
        ∀ s' t', parse s' = .ok t' → (t = t' ↔ Text.trimmed s = Text.trimmed s') := by
  refine ⟨?_, ?_⟩
  · have nothing : Text.trimmed s = "" ↔ Text.trim s.toList = [] := by
      rw [← String.toList_inj, Text.trimmed, String.toList_ofList]
      rfl
    rw [nothing, Text.trimmed, String.toList_ofList]
    exact parseTrimmed_iff (Text.trim s.toList)
  · intro t read
    refine ⟨text_of_parse read, parse_text ⟨s, read⟩, ?_⟩
    intro s' t' read'
    constructor
    · rintro rfl
      rw [← text_of_parse read, ← text_of_parse read']
    -- equal trimmed forms are the texts of both, and each text reads as its own identifier
    · intro same
      have texts : t.text = t'.text := by
        rw [text_of_parse read, text_of_parse read', same]
      have once := parse_text ⟨s, read⟩
      rw [texts, parse_text ⟨s', read'⟩] at once
      exact (Except.ok.inj once).symm

/-- A text with slashes and dots in name, group and version, and blanks around it. -/
theorem read_as_printed_nested :
    parse " a/b.c.d/.v/1\n" = .ok ⟨"c.d/.v", "a/b", "1"⟩ ∧
      (⟨"c.d/.v", "a/b", "1"⟩ : TypeId).text = "a/b.c.d/.v/1" ∧
      ∃ t, parse "a/b.c.d/.v/1" = .ok t := by
  have read : parse " a/b.c.d/.v/1\n" = .ok ⟨"c.d/.v", "a/b", "1"⟩ := rfl
  obtain ⟨printed, again, -⟩ := (read_as_printed " a/b.c.d/.v/1\n").2 _ read
  have trimmed : Text.trimmed " a/b.c.d/.v/1\n" = "a/b.c.d/.v/1" := rfl
  rw [trimmed] at printed
  exact ⟨read, printed, _, printed ▸ again⟩

end PluginKit.TypeId
