import PluginKit.Pattern.Matcher

/-!
# Patterns in schemas

The notation of patterns in schemas has classes of its own: the letters for digits, characters of words
and blanks stand for fewer characters than elsewhere, and a letter after `\c` stands for a control. They
are replaced before a pattern is read, within brackets and outside of them alike. A pattern without
backslashes is read as it stands (`plain_eq_self`).
-/

namespace PluginKit.Schema.Dialect

/-- Replaces letters after `\c` by controls. -/
def controls : List Char → List Char
  | '\\' :: 'c' :: l :: rest =>
    if l.isAlpha then Char.ofNat (l.toNat % 32) :: controls rest else '\\' :: controls ('c' :: l :: rest)
  | c :: rest => c :: controls rest
  | [] => []
termination_by s => s.length

/-- The blanks. -/
def blanks : String := " \t\n\r\x0b\x0c\u2003\ufeff\u2029\u00a0"

/-- The bracket that a letter after a backslash stands for. -/
def bracket? : Char → Option String
  | 'd' => some "[0-9]"
  | 'D' => some "[^0-9]"
  | 'w' => some "[A-Za-z0-9_]"
  | 'W' => some "[^A-Za-z0-9_]"
  | 's' => some ("[" ++ blanks ++ "]")
  | 'S' => some ("[^" ++ blanks ++ "]")
  | _ => none

/-- Replaces classes by brackets. -/
def brackets : List Char → List Char
  | '\\' :: c :: rest =>
    match bracket? c with
    | some s => s.toList ++ brackets rest
    | none => '\\' :: c :: brackets rest
  | c :: rest => c :: brackets rest
  | [] => []

/-- A pattern without the classes of schemas. -/
def plain (s : List Char) : List Char := brackets (controls s)

/-- A text without backslashes holds no classes to be replaced. -/
theorem brackets_eq_self {s : List Char} (h : '\\' ∉ s) : brackets s = s := by
  induction s with
  | nil => rfl
  | cons c r ih =>
    simp only [List.mem_cons, not_or] at h
    unfold brackets
    split
    · next heq => exact absurd (List.cons.inj heq).1.symm h.1
    · next heq => rw [← (List.cons.inj heq).1, ← (List.cons.inj heq).2, ih h.2]
    · next heq => cases heq

/-- A text without backslashes holds no controls to be replaced. -/
theorem controls_eq_self {s : List Char} (h : '\\' ∉ s) : controls s = s := by
  induction s with
  | nil => simp [controls]
  | cons c r ih =>
    simp only [List.mem_cons, not_or] at h
    rw [controls.eq_def]
    split
    · next heq => exact absurd (List.cons.inj heq).1.symm h.1
    · next heq => rw [← (List.cons.inj heq).1, ← (List.cons.inj heq).2, ih h.2]
    · next heq => cases heq

/-- A pattern without backslashes is read as it stands. -/
theorem plain_eq_self {s : List Char} (h : '\\' ∉ s) : plain s = s := by
  rw [plain, controls_eq_self h, brackets_eq_self h]

/-- Reads a pattern of a schema. -/
def matcher? (s : List Char) : Option Pattern.Matcher := Pattern.Matcher.read? (plain s)

end PluginKit.Schema.Dialect
