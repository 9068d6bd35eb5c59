import PluginKit.Proofs.Net.Groups
import PluginKit.Serve.Server

/-!
# Lines with an address

An address is written with digits, marks and brackets only. So whatever a line has around it can be taken
away again without a loss: blanks at either end, the scheme of a URL before it and a slash after it.

## Main statements

- `bare_text`: an address has neither blanks nor parts of a URL in its text.
- `Place.ofLine?_around`: what stands around such a text is taken away.
- `Place.announced_read_back`: the address that an instance prints is read back from every line with it.
-/

namespace PluginKit

namespace Net

/-! ## What an address is written with -/

/-- A character that is not taken away from a line: no blank, and in no part of a URL. -/
def Bare (c : Char) : Prop := Text.isBlank c = false ∧ c ≠ 'h' ∧ c ≠ '/'

instance (c : Char) : Decidable (Bare c) := inferInstanceAs (Decidable (_ ∧ _ ∧ _))

variable {s : List Char}

/-- Digits are taken away from no line. -/
theorem bare_of_mem_toDigits {base n : Nat} (two : 1 < base) (sixteen : base ≤ 16) :
    ∀ c ∈ Nat.toDigits base n, Bare c := by
  intro c member
  obtain ⟨d, below, rfl⟩ := exists_digitChar_of_mem_toDigits two member
  have small : d < 16 := Nat.lt_of_lt_of_le below sixteen
  interval_cases d <;> decide

/-- Numbers are written with digits. -/
theorem bare_toString (n : Nat) : ∀ c ∈ (toString n).toList, Bare c := by
  rw [Nat.toString_eq_repr, Nat.toList_repr]
  exact bare_of_mem_toDigits (by decide) (by decide)

/-- An address of version 4 is written with digits and dots. -/
theorem bare_text_octets {ip : V4} (proper : ip.Proper) : ∀ c ∈ ip.text.toList, Bare c := by
  obtain ⟨o, os, -, text⟩ := proper.exists_toList
  have digits (n : Nat) : ∀ c ∈ Nat.toDigits 10 n, Bare c := bare_of_mem_toDigits (by decide) (by decide)
  intro c member
  simp only [text, List.mem_append, List.mem_flatMap, List.mem_cons] at member
  rcases member with first | ⟨p, -, rfl | later⟩
  · exact digits o c first
  · decide
  · exact digits p c later

/-- Groups are written with digits and colons. -/
theorem bare_groupsFrom (index : Nat) (gs : List Nat) : ∀ c ∈ groupsFrom index gs, Bare c := by
  induction gs generalizing index with
  | nil => simp [groupsFrom]
  | cons g gs ih =>
    have digits : ∀ c ∈ Nat.toDigits 16 g, Bare c := bare_of_mem_toDigits (by decide) (by decide)
    intro c member
    rcases List.mem_append.1 member with here | later
    · unfold placed at here
      split at here
      · exact digits c here
      · rcases List.mem_cons.1 here with rfl | digit
        · decide
        · exact digits c digit
    · exact ih (index + 1) c later

/-- In each of its forms an address of version 6 is written with digits, colons and dots. -/
theorem bare_of_written {ip : V6} (proper : ip.Proper) (written : V6.Written ip.groups s) :
    ∀ c ∈ s, Bare c := by
  have colon : Bare ':' := by decide
  cases written with
  | whole => exact bare_groupsFrom 0 _
  | gap several row =>
    simp only [List.forall_mem_append, List.forall_mem_cons]
    exact ⟨bare_groupsFrom 0 _, colon, colon, bare_groupsFrom 0 _⟩
  | @mapped a b row =>
    have group := proper.group
    rw [row] at group
    simp only [List.forall_mem_append, List.forall_mem_cons]
    exact ⟨colon, colon, bare_groupsFrom 0 _, colon,
      bare_text_octets (V4.proper_ofGroups (group a (by simp)) (group b (by simp)))⟩

/-- The text of an address holds no character that is taken away from a line. -/
theorem bare_text {a : Address} (proper : a.Proper) : ∀ c ∈ a.text.toList, Bare c := by
  have colon : Bare ':' := by decide
  have percent : Bare '%' := by decide
  cases a with
  | v4 ip port =>
    simp only [Address.text, String.toList_append, List.forall_mem_append]
    exact ⟨⟨bare_text_octets proper.1, by simpa using colon⟩, bare_toString port⟩
  | v6 ip scope port =>
    have ofScope : ∀ c ∈ (scopeText scope).toList, Bare c := by
      unfold scopeText
      split
      · simp
      · simp only [String.toList_append, List.forall_mem_append]
        exact ⟨by simpa using percent, bare_toString scope⟩
    simp only [toList_text_v6, List.forall_mem_append, List.forall_mem_cons]
    exact ⟨by decide, bare_of_written proper.1 ip.written_text, ofScope, by decide, colon,
      bare_toString port⟩

end Net

/-! ## What is taken away from a line -/

namespace Place

variable {s : List Char}

/-- The scheme of a URL is taken away once. -/
theorem stripStart?_scheme {scheme : String} (known : scheme = "" ∨ scheme = "http://") (plain : 'h' ∉ s) :
    (stripStart? "http://".toList (scheme.toList ++ s)).getD (scheme.toList ++ s) = s := by
  rcases known with rfl | rfl
  · have other : ¬ "http://".toList.isPrefixOf s = true := by
      intro starts
      obtain ⟨rest, rfl⟩ := List.isPrefixOf_iff_prefix.1 starts
      exact plain (by simp)
    rw [String.toList_empty, List.nil_append, stripStart?, if_neg other, Option.getD_none]
  · rw [stripStart?, if_pos (List.isPrefixOf_iff_prefix.2 (List.prefix_append _ s)), List.drop_left,
      Option.getD_some]

/-- A slash at the end is taken away once. -/
theorem stripLast_slash {slash : String} (known : slash = "" ∨ slash = "/") (plain : '/' ∉ s) :
    stripLast '/' (s ++ slash.toList) = s := by
  rcases known with rfl | rfl
  · have other : s.getLast? ≠ some '/' := fun last => plain (List.mem_of_getLast? last)
    simp [stripLast, other]
  · simp [stripLast]

/-- A line is read without blanks at either end, and between them without the scheme of a URL and a slash.
-/
theorem ofLine?_around {text before after scheme slash : String} {a : Net.Address}
    (bare : ∀ c ∈ text.toList, Net.Bare c) (read : Net.Address.parse? text.toList = some a)
    (front : ∀ c ∈ before.toList, Text.isBlank c = true) (back : ∀ c ∈ after.toList, Text.isBlank c = true)
    (knownScheme : scheme = "" ∨ scheme = "http://") (knownSlash : slash = "" ∨ slash = "/") :
    ofLine? (before ++ scheme ++ text ++ slash ++ after) = some (.tcp a) := by
  have line : (before ++ scheme ++ text ++ slash ++ after).toList =
      before.toList ++ (scheme.toList ++ (text.toList ++ slash.toList) ++ after.toList) := by
    simp
  have solid : ∀ c ∈ scheme.toList ++ (text.toList ++ slash.toList), Text.isBlank c = false := by
    simp only [List.forall_mem_append]
    refine ⟨?_, fun c member => (bare c member).1, ?_⟩
    · rcases knownScheme with rfl | rfl <;> simp [Text.isBlank]
    · rcases knownSlash with rfl | rfl <;> simp [Text.isBlank]
  have trimmed : Text.trim (before ++ scheme ++ text ++ slash ++ after).toList =
      scheme.toList ++ (text.toList ++ slash.toList) := by
    rw [line, Text.trim_between _ front back]
    apply Text.trim_eq_self
    · exact fun c first => solid c (List.mem_of_head? first)
    · exact fun c last => solid c (List.mem_of_getLast? last)
  have noScheme : 'h' ∉ text.toList ++ slash.toList := by
    rw [List.mem_append, not_or]
    refine ⟨fun member => (bare 'h' member).2.1 rfl, ?_⟩
    rcases knownSlash with rfl | rfl <;> decide
  have noSlash : '/' ∉ text.toList := fun member => (bare '/' member).2.2 rfl
  simp only [ofLine?, trimmed, stripStart?_scheme knownScheme noScheme, stripLast_slash knownSlash noSlash,
    read, Option.map_some]

/-- The text of an address alone on a line is the place of that address. -/
theorem ofLine?_text {a : Net.Address} (proper : a.Proper) : ofLine? a.text = some (.tcp a) := by
  have nothing : ∀ c ∈ "".toList, Text.isBlank c = true := by simp
  simpa using ofLine?_around (Net.bare_text proper) (Net.parse?_text proper) nothing nothing (.inl rfl)
    (.inl rfl)

/-- An instance on a port prints a line with its address alone. That address is read back from this line,
and from every other line with the same text, between any blanks, whether it is written as a URL or not, and
with a slash after it or without. -/
theorem announced_read_back {a : Net.Address} (proper : a.Proper) :
    Server.announcement (.tcp a) = a.text ++ "\n" ∧
      ∀ before after scheme slash : String,
        (∀ c ∈ before.toList, Text.isBlank c = true) → (∀ c ∈ after.toList, Text.isBlank c = true) →
        scheme = "" ∨ scheme = "http://" → slash = "" ∨ slash = "/" →
        ofLine? (before ++ scheme ++ a.text ++ slash ++ after) = some (.tcp a) := by
  refine ⟨rfl, ?_⟩
  intro before after scheme slash front back knownScheme knownSlash
  exact ofLine?_around (Net.bare_text proper) (Net.parse?_text proper) front back knownScheme knownSlash

/-- Two URLs on lines of their own: one with an embedded address of version 4, and one with two rows of zeros
of one length, of which the first is left out. -/
theorem urls_read_back :
    (Net.Address.v6 ⟨[0, 0, 0, 0, 0, 0xFFFF, 0xC000, 0x0201]⟩ 0 8080).Proper ∧
      (Net.Address.v6 ⟨[0x2001, 0xDB8, 0, 0, 1, 0, 0, 1]⟩ 0 65535).Proper ∧
      ofLine? "\u3000\thttp://[::ffff:192.0.2.1]:8080/\r\n" =
        some (.tcp (.v6 ⟨[0, 0, 0, 0, 0, 0xFFFF, 0xC000, 0x0201]⟩ 0 8080)) ∧
      ofLine? " http://[2001:db8::1:0:0:1]:65535\n" =
        some (.tcp (.v6 ⟨[0x2001, 0xDB8, 0, 0, 1, 0, 0, 1]⟩ 0 65535)) := by
  have mapped : (Net.Address.v6 ⟨[0, 0, 0, 0, 0, 0xFFFF, 0xC000, 0x0201]⟩ 0 8080).Proper :=
    ⟨⟨rfl, by decide⟩, by decide, by decide⟩
  have gap : (Net.Address.v6 ⟨[0x2001, 0xDB8, 0, 0, 1, 0, 0, 1]⟩ 0 65535).Proper :=
    ⟨⟨rfl, by decide⟩, by decide, by decide⟩
  refine ⟨mapped, gap, ?_, ?_⟩
  · exact (announced_read_back mapped).2 "\u3000\t" "\r\n" "http://" "/" (by simp [Text.isBlank])
      (by simp [Text.isBlank]) (.inr rfl) (.inr rfl)
  · exact (announced_read_back gap).2 " " "\n" "http://" "" (by simp [Text.isBlank])
      (by simp [Text.isBlank]) (.inr rfl) (.inl rfl)

end Place

end PluginKit
