import PluginKit.Proofs.Net.Address

/-!
# Addresses of eight groups

The text of an address of version 6 has three forms: all its groups in a row, two rows with a gap between
them that stands for zeros, or an address of version 4 in the place of the last two groups. A reader does
not know which of them it has before it: at every place of a row it tries an address of version 4 first, and
a row is over where neither that nor a group can be read. So a group must not be taken for the beginning of
an address of version 4, and the first mark of a gap not for the mark of one more group. Both are told by
what follows a group, `Ends`.

## Main statements

- `readGroups_groupsFrom`: groups of a row are read back, and then whatever is read after them.
- `V6.written_text`: the text of an address has one of the three forms.
- `readV6_of_written`: an address is read back from each of them.
- `parse?_text`: every address with a port is read back from its text.
-/

namespace PluginKit

namespace Net

variable {gs : List Nat} {s rest : List Char}

/-! ## Ends of groups -/

/-- A text that can follow a group: it does not begin with a hexadecimal digit, nor with the point of an
address of version 4. -/
def Ends (s : List Char) : Prop := ∀ c ∈ s.head?, digit? 16 c = none ∧ c ≠ '.'

theorem Ends.cons {c : Char} (other : digit? 16 c = none) (dot : c ≠ '.') (s : List Char) : Ends (c :: s) := by
  intro d first
  cases first
  exact ⟨other, dot⟩

/-- A group of a row follows the one before it. -/
theorem Ends.mark (s : List Char) : Ends (':' :: s) := .cons (by decide) (by decide) s

/-- No octet goes on where a group has ended. -/
theorem Ends.next (ends : Ends s) : ∀ c ∈ s.head?, digit? 10 c = none :=
  fun c first => digit?_ten_of_sixteen (ends c first).1

/-- A text that can follow a group starts with no decimal digit. -/
theorem Ends.dropWhile_eq (ends : Ends s) : (s.dropWhile fun c => (digit? 10 c).isSome) = s := by
  cases s with
  | nil => rfl
  | cons c r => rw [List.dropWhile_cons_of_neg (by simp [ends.next c rfl])]

/-- No group stands where one has ended. -/
theorem Ends.number_eq_none (ends : Ends s) : number 16 65536 (some 4) true s = none :=
  Net.number_eq_none fun c first => (ends c first).1

/-- No address of version 4 stands where a group has ended. -/
theorem Ends.readV4_eq_none (ends : Ends s) : readV4 s = none := by
  apply Net.readV4_eq_none
  rw [ends.dropWhile_eq]
  exact fun c first => (ends c first).2

/-- A group is not taken for the first octet of an address of version 4. -/
theorem readV4_group (g : Nat) (ends : Ends rest) : readV4 (Nat.toDigits 16 g ++ rest) = none := by
  apply readV4_eq_none
  intro c first
  rw [List.dropWhile_append] at first
  split at first
  -- all digits of the group could be those of an octet
  · rw [ends.dropWhile_eq] at first
    exact (ends c first).2
  -- one of them could not, but a digit of the group is no dot either
  · next more =>
    rw [List.isEmpty_iff] at more
    rw [List.head?_append_of_ne_nil _ more] at first
    have member := List.dropWhile_subset _ (List.mem_of_mem_head? first)
    obtain ⟨d, below, rfl⟩ := exists_digitChar_of_mem_toDigits (by decide) member
    have digit := digit?_digitChar below (Nat.le_refl 16)
    intro dot
    rw [dot] at digit
    exact absurd digit (by simp [digit?])

/-- A group is read back from its digits. -/
theorem number_group {g : Nat} (group : g < 65536) (ends : Ends rest) :
    number 16 65536 (some 4) true (Nat.toDigits 16 g ++ rest) = some (g, rest) :=
  number_within (by decide) (by decide) group (by decide) (by decide) true fun c first => (ends c first).1

/-! ## Places of a row -/

/-- A text at a place of a row. The first one has no mark in front. -/
def placed (index : Nat) (s : List Char) : List Char := if index = 0 then s else ':' :: s

/-- A part at its place in a row is read as by itself. -/
theorem separated_placed {α : Type} (index : Nat) (r : Read α) (s : List Char) :
    separated ':' index r (placed index s) = r s := by
  by_cases first : index = 0
  · simp [separated, placed, first]
  · simp [separated, placed, first, given]

/-- No part is read from a text that has none at this place. -/
theorem separated_eq_none {α : Type} {index : Nat} {r : Read α}
    (other : ∀ t, s = placed index t → r t = none) : separated ':' index r s = none := by
  by_cases first : index = 0
  · subst first
    exact other s rfl
  · cases s with
    | nil => simp [separated, first, given]
    | cons c t =>
      by_cases mark : c = ':'
      · subst mark
        simpa [separated, first, given] using other t (by simp [placed, first])
      · simp [separated, first, given, mark]

/-! ## Groups in a row -/

/-- The text of groups from a place of a row on. -/
def groupsFrom : Nat → List Nat → List Char
  | _, [] => []
  | index, g :: gs => placed index (Nat.toDigits 16 g) ++ groupsFrom (index + 1) gs

theorem groupsFrom_succ (index : Nat) (gs : List Nat) :
    groupsFrom (index + 1) gs = gs.flatMap fun g => ':' :: Nat.toDigits 16 g := by
  induction gs generalizing index with
  | nil => rfl
  | cons g gs ih => simp [groupsFrom, placed, ih]

/-- The text of groups in a row. -/
theorem toList_groupsText (gs : List Nat) : (groupsText gs).toList = groupsFrom 0 gs := by
  cases gs with
  | nil => simp [groupsText, groupsFrom]
  | cons g gs =>
    rw [groupsText, toList_intercalate_row, groupsFrom, groupsFrom_succ]
    simp [groupText, placed]

/-- A group of a row is read before the groups after it. -/
theorem readGroups_placed {g limit index : Nat} (group : g < 65536) (ends : Ends s) :
    readGroups (limit + 1) index (placed index (Nat.toDigits 16 g ++ s)) =
      let later := readGroups limit (index + 1) s
      ((g :: later.1.1, later.1.2), later.2) := by
  rw [readGroups]
  simp only [separated_placed, readV4_group g ends, ite_self, number_group group ends]

/-- A row is over where neither a group nor an address of version 4 is placed. -/
theorem readGroups_over {limit index : Nat} (noMore : ∀ t, s = placed index t → Ends t) :
    readGroups limit index s = (([], false), s) := by
  cases limit with
  | zero => rfl
  | succ limit =>
    have noOctets : separated ':' index readV4 s = none :=
      separated_eq_none fun t here => (noMore t here).readV4_eq_none
    have noGroup : separated ':' index (number 16 65536 (some 4) true) s = none :=
      separated_eq_none fun t here => (noMore t here).number_eq_none
    rw [readGroups]
    simp only [noOctets, noGroup, ite_self]

/-- Groups of a row are read back, and then whatever is read after them. -/
theorem readGroups_groupsFrom {limit index : Nat} (group : ∀ g ∈ gs, g < 65536)
    (fits : gs.length ≤ limit) (ends : Ends rest) :
    readGroups limit index (groupsFrom index gs ++ rest) =
      let later := readGroups (limit - gs.length) (index + gs.length) rest
      ((gs ++ later.1.1, later.1.2), later.2) := by
  induction gs generalizing limit index with
  | nil => simp [groupsFrom]
  | cons g gs ih =>
    obtain ⟨limit, rfl⟩ : ∃ l, limit = l + 1 := ⟨limit - 1, by simp at fits; omega⟩
    have text : groupsFrom index (g :: gs) ++ rest =
        placed index (Nat.toDigits 16 g ++ (groupsFrom (index + 1) gs ++ rest)) := by
      simp only [groupsFrom, placed]
      split <;> simp
    -- this group ends at the mark of the next one, or with the row
    have next : Ends (groupsFrom (index + 1) gs ++ rest) := by
      cases gs with
      | nil => exact ends
      | cons h gs => exact .mark _
    have later : readGroups limit (index + 1) (groupsFrom (index + 1) gs ++ rest) =
        let r := readGroups (limit - gs.length) (index + 1 + gs.length) rest
        ((gs ++ r.1.1, r.1.2), r.2) :=
      ih (fun h member => group h (List.mem_cons_of_mem g member)) (Nat.le_of_succ_le_succ fits)
    rw [text, readGroups_placed (group g List.mem_cons_self) next, later, List.length_cons,
      Nat.add_sub_add_right, Nat.add_right_comm, Nat.add_assoc]
    rfl

/-- A row that is over after its groups is read back. -/
theorem readGroups_row {limit : Nat} (group : ∀ g ∈ gs, g < 65536) (fits : gs.length ≤ limit)
    (ends : Ends rest) (noMore : ∀ t, rest = placed gs.length t → Ends t) :
    readGroups limit 0 (groupsFrom 0 gs ++ rest) = ((gs, false), rest) := by
  rw [← Nat.zero_add gs.length] at noMore
  rw [readGroups_groupsFrom group fits ends, readGroups_over noMore]
  simp only [List.append_nil]

/-! ## Forms of an address -/

/-- Eight groups. -/
structure V6.Proper (ip : V6) : Prop where
  eight : ip.groups.length = 8
  group : ∀ g ∈ ip.groups, g < 65536

/-- The address of version 4 that two groups embed. -/
def V4.ofGroups (a b : Nat) : V4 := ⟨[a / 256, a % 256, b / 256, b % 256]⟩

/-- Two groups embed four octets. -/
theorem V4.proper_ofGroups {a b : Nat} (high : a < 65536) (low : b < 65536) : (V4.ofGroups a b).Proper := by
  refine ⟨rfl, ?_⟩
  intro o member
  simp only [V4.ofGroups, List.mem_cons, List.not_mem_nil, or_false] at member
  omega

/-- The forms in which an address is written: with all its groups, with a gap for a row of zeros, or with
an address of version 4 in its last two groups. -/
inductive V6.Written (gs : List Nat) : List Char → Prop where
  | whole : V6.Written gs (groupsFrom 0 gs)
  | gap {ahead behind : List Nat} {zeros : Nat} (several : 1 < zeros)
      (row : gs = ahead ++ List.replicate zeros 0 ++ behind) :
      V6.Written gs (groupsFrom 0 ahead ++ ':' :: ':' :: groupsFrom 0 behind)
  | mapped {a b : Nat} (row : gs = [0, 0, 0, 0, 0, 0xFFFF, a, b]) :
      V6.Written gs (':' :: ':' :: (groupsFrom 0 [0xFFFF] ++ ':' :: (V4.ofGroups a b).text.toList))

/-- The zeros that are left out stand where they are said to. -/
theorem longestZeros_eq (start : Nat) (gs : List Nat) : ∃ ahead behind,
    gs = ahead ++ List.replicate (longestZeros start gs).2 0 ++ behind ∧
      (longestZeros start gs).1 = start + ahead.length := by
  induction gs generalizing start with
  | nil => exact ⟨[], [], by simp [longestZeros], by simp [longestZeros]⟩
  | cons g gs ih =>
    rw [longestZeros]
    by_cases later : zerosAhead (g :: gs) = 0 ∨ zerosAhead (g :: gs) < (longestZeros (start + 1) gs).2
    · obtain ⟨ahead, behind, row, place⟩ := ih (start + 1)
      simp only [if_pos later]
      refine ⟨g :: ahead, behind, ?_, ?_⟩
      · rw [List.cons_append, List.cons_append, ← row]
      · rw [place, List.length_cons]
        omega
    · simp only [if_neg later]
      refine ⟨[], (g :: gs).dropWhile (· == 0), ?_, rfl⟩
      have zeros : (g :: gs).takeWhile (· == 0) = List.replicate (zerosAhead (g :: gs)) 0 := by
        rw [List.eq_replicate_iff]
        exact ⟨rfl, fun h member => by simpa using List.all_eq_true.1 List.all_takeWhile h member⟩
      rw [List.nil_append, ← zeros, List.takeWhile_append_dropWhile]

/-- By its groups alone an address is written in one of the first two forms. -/
theorem V6.written_textOfGroups (ip : V6) : V6.Written ip.groups ip.textOfGroups.toList := by
  obtain ⟨ahead, behind, row, place⟩ := longestZeros_eq 0 ip.groups
  rw [Nat.zero_add] at place
  by_cases several : 1 < (longestZeros 0 ip.groups).2
  · have front : ip.groups.take ahead.length = ahead := by
      rw [row, List.append_assoc, List.take_left]
    have back : ip.groups.drop (ahead.length + (longestZeros 0 ip.groups).2) = behind :=
      (congrArg (List.drop _) row).trans (List.drop_left' (by simp))
    have text : ip.textOfGroups.toList = groupsFrom 0 ahead ++ ':' :: ':' :: groupsFrom 0 behind := by
      simp [textOfGroups, several, place, front, back, toList_groupsText]
    rw [text]
    exact .gap several row
  · have text : ip.textOfGroups.toList = groupsFrom 0 ip.groups := by
      simp [textOfGroups, several, toList_groupsText]
    rw [text]
    exact .whole

/-- The text of an address has one of the three forms. -/
theorem V6.written_text (ip : V6) : V6.Written ip.groups ip.text.toList := by
  unfold V6.text
  split
  · next a b row =>
    have front : "::ffff:".toList = ':' :: ':' :: (groupsFrom 0 [0xFFFF] ++ [':']) := by decide
    rw [String.toList_append, front]
    simpa [V4.ofGroups] using V6.Written.mapped row
  · exact ip.written_textOfGroups

/-! ## Reading the forms -/

/-- A text that can follow an address: one that can follow a group, without the mark of another group. -/
structure Closes (s : List Char) : Prop where
  ends : Ends s
  unmarked : s.head? ≠ some ':'

/-- After an address no group is placed. -/
theorem Closes.noMore (closes : Closes s) (index : Nat) : ∀ t, s = placed index t → Ends t := by
  intro t here
  unfold placed at here
  split at here
  · exact here ▸ closes.ends
  · exact absurd (by rw [here]; rfl) closes.unmarked

/-- After the first mark of a gap stands the second one, and no group. -/
theorem ends_of_gap (index : Nat) : ∀ t, ':' :: ':' :: s = placed index t → Ends t := by
  intro t here
  unfold placed at here
  split at here
  · exact here ▸ .mark _
  · cases here
    exact .mark s

/-- Two rows of groups with a gap between them are read back as one row with zeros in the gap. -/
theorem readV6_gap {ahead behind : List Nat} {embedded : Bool} (group : ∀ g ∈ ahead, g < 65536)
    (room : ahead.length + behind.length < 8)
    (read : readGroups (7 - ahead.length) 0 s = ((behind, embedded), rest)) :
    readV6 (groupsFrom 0 ahead ++ ':' :: ':' :: s) =
      some (⟨ahead ++ List.replicate (8 - ahead.length - behind.length) 0 ++ behind⟩, rest) := by
  have few : ahead.length ≠ 8 := by omega
  rw [readV6, readGroups_row group (by omega) (.mark _) (ends_of_gap ahead.length)]
  simp [few, given, read]

/-- An embedded address of version 4 ends a row that has room for two more groups. -/
theorem readGroups_ofGroups {a b limit index : Nat} (room : limit ≠ 0) (high : a < 65536) (low : b < 65536)
    (next : ∀ c ∈ rest.head?, digit? 10 c = none) :
    readGroups (limit + 1) index (placed index ((V4.ofGroups a b).text.toList ++ rest)) =
      (([a, b], true), rest) := by
  have read : readV4 ((V4.ofGroups a b).text.toList ++ rest) =
      some (⟨[a / 256, a % 256, b / 256, b % 256]⟩, rest) :=
    readV4_text (V4.proper_ofGroups high low) next
  rw [readGroups]
  simp only [if_neg room, separated_placed, read, Nat.div_add_mod']

/-- An address is read back from every form in which it is written. -/
theorem readV6_of_written {ip : V6} (proper : ip.Proper) (written : V6.Written ip.groups s)
    (closes : Closes rest) : readV6 (s ++ rest) = some (ip, rest) := by
  obtain ⟨eight, group⟩ := proper
  cases written with
  | whole =>
    rw [readV6, readGroups_row group (Nat.le_of_eq eight) closes.ends (closes.noMore _)]
    simp [eight]
  | @gap ahead behind zeros several row =>
    rw [row, List.length_append, List.length_append, List.length_replicate] at eight
    rw [row] at group
    have read : readGroups (7 - ahead.length) 0 (groupsFrom 0 behind ++ rest) = ((behind, false), rest) :=
      readGroups_row (fun g member => group g (by simp [member])) (by omega) closes.ends (closes.noMore _)
    have filled : 8 - ahead.length - behind.length = zeros := by omega
    rw [List.append_assoc, List.cons_append, List.cons_append,
      readV6_gap (fun g member => group g (by simp [member])) (by omega) read, filled, ← row]
  | @mapped a b row =>
    rw [row] at group
    have embedded : readGroups 6 1 (':' :: ((V4.ofGroups a b).text.toList ++ rest)) = (([a, b], true), rest) :=
      readGroups_ofGroups (by decide) (group a (by simp)) (group b (by simp)) closes.ends.next
    have read : readGroups 7 0 (groupsFrom 0 [0xFFFF] ++ ':' :: ((V4.ofGroups a b).text.toList ++ rest)) =
        (([0xFFFF, a, b], true), rest) := by
      rw [readGroups_groupsFrom (by decide) (by decide) (.mark _)]
      simp [embedded]
    have whole := readV6_gap (List.forall_mem_nil (· < 65536)) (by simp) read
    simpa [groupsFrom, ← row] using whole

/-- An address is read back from its text, up to something that cannot go on with it. -/
theorem readV6_text {ip : V6} (proper : ip.Proper) (closes : Closes rest) :
    readV6 (ip.text.toList ++ rest) = some (ip, rest) :=
  readV6_of_written proper ip.written_text closes

/-! ## Scopes and ports -/

/-- The text of a scope. -/
def scopeText (scope : Nat) : String := if scope = 0 then "" else "%" ++ toString scope

/-- A scope, or the bracket after it, closes an address. -/
theorem closes_scopeText (scope : Nat) (s : List Char) : Closes ((scopeText scope).toList ++ ']' :: s) := by
  by_cases zero : scope = 0
  · have text : (scopeText scope).toList ++ ']' :: s = ']' :: s := by simp [scopeText, zero]
    rw [text]
    exact ⟨.cons (by decide) (by decide) s, by simp⟩
  · have text : (scopeText scope).toList ++ ']' :: s = '%' :: (Nat.toDigits 10 scope ++ ']' :: s) := by
      simp [scopeText, zero]
    rw [text]
    exact ⟨.cons (by decide) (by decide) _, by simp⟩

/-- A scope is read back from its text, up to the bracket. -/
theorem readScope_text {scope : Nat} (h : scope < 0x100000000) (s : List Char) :
    (readScope ((scopeText scope).toList ++ ']' :: s)).getD (0, (scopeText scope).toList ++ ']' :: s) =
      (scope, ']' :: s) := by
  by_cases zero : scope = 0
  · simp [scopeText, zero, readScope, given]
  · have bracket : Ends (']' :: s) := .cons (by decide) (by decide) s
    have read : number 10 0x100000000 none true (Nat.toDigits 10 scope ++ ']' :: s) = some (scope, ']' :: s) :=
      number_toDigits (by decide) (by decide) h (fun m most => by cases most) true bracket.next
    simp [scopeText, zero, readScope, given, read]

/-- The parts of an address are within their bounds. -/
def Address.Proper : Address → Prop
  | .v4 ip port => ip.Proper ∧ port < 65536
  | .v6 ip scope port => ip.Proper ∧ scope < 0x100000000 ∧ port < 65536

/-- The text of an address of version 6 with its scope and port. -/
theorem toList_text_v6 (ip : V6) (scope port : Nat) : (Address.v6 ip scope port).text.toList =
    '[' :: (ip.text.toList ++ ((scopeText scope).toList ++ ']' :: ':' :: (toString port).toList)) := by
  simp [Address.text, scopeText]

/-- An address of version 6 with its scope and port is read back from its text. -/
theorem parse?_text_v6 {ip : V6} {scope port : Nat} (proper : ip.Proper) (bounded : scope < 0x100000000)
    (h : port < 65536) :
    Address.parse? (Address.v6 ip scope port).text.toList = some (.v6 ip scope port) := by
  have four : readAddress4 (Address.v6 ip scope port).text.toList = none := by
    have bracket (s : List Char) : Ends ('[' :: s) := .cons (by decide) (by decide) s
    rw [toList_text_v6, readAddress4, (bracket _).readV4_eq_none]
    rfl
  have six : readAddress6 (Address.v6 ip scope port).text.toList = some (.v6 ip scope port, []) := by
    rw [toList_text_v6, readAddress6]
    simp only [given, if_true, readV6_text proper (closes_scopeText scope _), readScope_text bounded,
      readPort_text h, bind, pure, Option.bind_some]
  rw [Address.parse?, four, six]
  rfl

/-- An address is read back from its text. -/
theorem parse?_text {a : Address} (proper : a.Proper) : Address.parse? a.text.toList = some a := by
  cases a with
  | v4 ip port =>
    obtain ⟨ip_, h⟩ := proper
    exact parse?_text_v4 ip_ h
  | v6 ip scope port =>
    obtain ⟨ip_, bounded, h⟩ := proper
    exact parse?_text_v6 ip_ bounded h

end Net

end PluginKit
