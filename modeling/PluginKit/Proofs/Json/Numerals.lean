import PluginKit.Json.Decode
import PluginKit.Json.Value
import PluginKit.Proofs.Digits
import PluginKit.Proofs.Effect

/-!
# Numbers in texts

A numeral is read as it is written, and up to where it cannot go on, so what comes after it makes no
difference as long as no number goes on with it (`Reader.Delimited`). A number that is written as a
numeral reads as the value of this one. An integer of 64 bits is the value of its own numeral.

## Main statements

- `Reader.number_append`: what comes after a number does not change it.
- `Reader.lexNumeral_text`: a numeral is read as it is written.
- `Reader.WrittenAs.value_append`: a number is read as the value of its numeral, whatever comes after it.
- `Reader.exists_writtenAs_of_isIntegral`: an integer of 64 bits is the value of its numeral.
-/

namespace PluginKit.Json

/-- Whether a number is an integer that fits 64 bits, signed or unsigned. -/
def Number.isIntegral : Number → Bool
  | .int n => -Nat.pow 2 63 ≤ n && n < Nat.pow 2 64
  | .float _ => false

/-- No character stands for octets that are no text. -/
def Reader.nothingForeign (_ : Char) : Bool := false

/-- The number that the text of a number reads as, if there is one. -/
def Number.reread (n : Number) : Option Number :=
  match Reader.value Reader.nothingForeign 1 0 n.render.toList with
  | (.num m, some []) => some m
  | _ => none

namespace Reader

/-! ## What comes after a number -/

/-- A text after which no number goes on. -/
def Delimited (rest : List Char) : Prop :=
  ∀ c ∈ rest.head?, c.isDigit = false ∧ c ≠ '.' ∧ c ≠ 'e' ∧ c ≠ 'E'

theorem delimited_nil : Delimited [] := by
  intro c hc
  cases hc

theorem delimited_cons {c : Char} (rest : List Char)
    (h : c.isDigit = false ∧ c ≠ '.' ∧ c ≠ 'e' ∧ c ≠ 'E') : Delimited (c :: rest) := by
  intro d hd
  cases hd
  exact h

theorem spanDigits_append (cs : List Char) {rest : List Char} (next : Delimited rest) :
    spanDigits (cs ++ rest) = ((spanDigits cs).1, (spanDigits cs).2 ++ rest) := by
  unfold spanDigits
  induction cs with
  | nil =>
    cases rest with
    | nil => rfl
    | cons c rest => simp [(next c rfl).1]
  | cons c cs ih =>
    obtain ⟨digits, others⟩ := Prod.mk.inj ih
    cases digit : c.isDigit with
    | true => simp [digit, digits, others]
    | false => simp [digit]

theorem lexWhole_append {cs ds r rest : List Char} (next : Delimited rest)
    (h : lexWhole cs = .ok (ds, r)) : lexWhole (cs ++ rest) = .ok (ds, r ++ rest) := by
  unfold lexWhole at h ⊢
  rw [spanDigits_append cs next]
  split at h
  · cases h
  · cases h
  · next some_ single spanned =>
    cases h
    rw [spanned]
    split
    · next none_ => exact absurd (Prod.mk.inj none_).1 some_
    · next more => exact absurd (Prod.mk.inj more).1 (single _ _)
    · next same =>
      cases same
      rfl

theorem lexFraction_unpointed {cs : List Char} (unpointed : ∀ c ∈ cs.head?, c ≠ '.') :
    lexFraction cs = .ok (none, cs) := by
  rw [lexFraction]
  rintro r rfl
  exact unpointed '.' rfl rfl

theorem lexFraction_append {cs r rest : List Char} {digits : Option (List Char)}
    (next : Delimited rest) (h : lexFraction cs = .ok (digits, r)) :
    lexFraction (cs ++ rest) = .ok (digits, r ++ rest) := by
  unfold lexFraction at h
  split at h
  · next cs =>
    rw [List.cons_append, lexFraction, spanDigits_append cs next]
    split at h
    · cases h
    · next some_ spanned =>
      cases h
      rw [spanned]
      split
      · next none_ => exact absurd (Prod.mk.inj none_).1 some_
      · next same =>
        cases same
        rfl
  · next whole =>
    cases h
    cases cs with
    | nil => exact lexFraction_unpointed fun c there => (next c there).2.1
    | cons c cs =>
      refine lexFraction_unpointed fun d there => ?_
      cases there
      rintro rfl
      exact whole cs rfl

/-- The sign of an exponent and what follows it. -/
def exponentSign : List Char → Bool × List Char
  | '+' :: r => (false, r)
  | '-' :: r => (true, r)
  | r => (false, r)

/-- An exponent after its sign. -/
def exponentDigits (negative : Bool) (cs : List Char) :
    Except Stop (Option (Bool × List Char) × List Char) :=
  match spanDigits cs with
  | ([], rest) => .error (digitMissing rest)
  | (ds, rest) => .ok (some (negative, ds), rest)

theorem lexExponent_cons {c : Char} (mark : c = 'e' ∨ c = 'E') (cs : List Char) :
    lexExponent (c :: cs) = exponentDigits (exponentSign cs).1 (exponentSign cs).2 := by
  rcases mark with rfl | rfl <;> rfl

theorem lexExponent_unmarked {cs : List Char} (unmarked : ∀ c ∈ cs.head?, c ≠ 'e' ∧ c ≠ 'E') :
    lexExponent cs = .ok (none, cs) := by
  rw [lexExponent]
  · rintro r rfl
    exact (unmarked 'e' rfl).1 rfl
  · rintro r rfl
    exact (unmarked 'E' rfl).2 rfl

theorem exponentSign_append {cs : List Char} (some_ : cs ≠ []) (rest : List Char) :
    exponentSign (cs ++ rest) = ((exponentSign cs).1, (exponentSign cs).2 ++ rest) := by
  cases cs with
  | nil => exact absurd rfl some_
  | cons c cs =>
    by_cases plus : c = '+'
    · subst plus
      rfl
    by_cases minus : c = '-'
    · subst minus
      rfl
    have unsigned (r : List Char) : exponentSign (c :: r) = (false, c :: r) := by
      rw [exponentSign]
      · exact fun _ same => plus (List.cons.inj same).1
      · exact fun _ same => minus (List.cons.inj same).1
    rw [List.cons_append, unsigned, unsigned]
    rfl

theorem exponentDigits_append {cs r rest : List Char} {negative : Bool}
    {exponent : Option (Bool × List Char)} (next : Delimited rest)
    (h : exponentDigits negative cs = .ok (exponent, r)) :
    exponentDigits negative (cs ++ rest) = .ok (exponent, r ++ rest) := by
  unfold exponentDigits at h ⊢
  rw [spanDigits_append cs next]
  split at h
  · cases h
  · next some_ spanned =>
    cases h
    rw [spanned]
    split
    · next none_ => exact absurd (Prod.mk.inj none_).1 some_
    · next same =>
      cases same
      rfl

theorem lexExponent_append {cs r rest : List Char} {exponent : Option (Bool × List Char)}
    (next : Delimited rest) (h : lexExponent cs = .ok (exponent, r)) :
    lexExponent (cs ++ rest) = .ok (exponent, r ++ rest) := by
  cases cs with
  | nil =>
    cases h
    exact lexExponent_unmarked fun c there => (next c there).2.2
  | cons c cs =>
    by_cases mark : c = 'e' ∨ c = 'E'
    · rw [lexExponent_cons mark] at h
      rw [List.cons_append, lexExponent_cons mark]
      -- an exponent without a digit would be a fault
      have some_ : cs ≠ [] := by
        rintro rfl
        cases h
      rw [exponentSign_append some_]
      exact exponentDigits_append next h
    · rw [not_or] at mark
      have unmarked (r : List Char) : lexExponent (c :: r) = .ok (none, c :: r) :=
        lexExponent_unmarked fun d same => by cases same; exact mark
      rw [unmarked] at h
      cases h
      exact unmarked (cs ++ rest)

theorem lexNumeral_append {negative : Bool} {cs r rest : List Char} {n : Numeral}
    (next : Delimited rest) (h : lexNumeral negative cs = .ok (n, r)) :
    lexNumeral negative (cs ++ rest) = .ok (n, r ++ rest) := by
  obtain ⟨⟨ds, afterWhole⟩, whole, h⟩ := ok_of_bind h
  obtain ⟨⟨digits, afterPoint⟩, fraction, h⟩ := ok_of_bind h
  obtain ⟨⟨power, last⟩, exponent, h⟩ := ok_of_bind h
  cases h
  simp only [lexNumeral, lexWhole_append next whole, lexFraction_append next fraction,
    lexExponent_append next exponent, bind, Except.bind]
  rfl

/-- The text after a number does not change how it is read, unless a number could go on with it. -/
theorem number_append {opening : Char} {negative : Bool} {cs r rest : List Char} {v : Number}
    (next : Delimited rest) (h : number opening negative cs = (.num v, some r)) :
    number opening negative (cs ++ rest) = (.num v, some (r ++ rest)) := by
  unfold number at h ⊢
  cases read : lexNumeral negative cs with
  | error stop =>
    rw [read] at h
    cases h
  | ok p =>
    obtain ⟨n, last⟩ := p
    rw [read] at h
    rw [lexNumeral_append next read]
    cases known : n.value with
    | none =>
      simp only [known] at h
      cases h
    | some w =>
      simp only [known] at h ⊢
      cases h
      rfl

/-! ## Texts of numerals -/

/-- Digits are taken up to where there are no more. -/
theorem spanDigits_of_digits {ds rest : List Char} (digits : ∀ c ∈ ds, c.isDigit = true)
    (ends : ∀ c ∈ rest.head?, c.isDigit = false) : spanDigits (ds ++ rest) = (ds, rest) := by
  have taken : (ds ++ rest).takeWhile Char.isDigit = ds ++ rest.takeWhile Char.isDigit :=
    List.takeWhile_append_of_pos digits
  have left : (ds ++ rest).dropWhile Char.isDigit = rest.dropWhile Char.isDigit :=
    List.dropWhile_append_of_pos digits
  rw [spanDigits, taken, left]
  cases rest with
  | nil => simp
  | cons c rest =>
    have stops := ends c rfl
    simp [stops]

/-- The point and the digits after it. -/
def fractionText : Option (List Char) → List Char
  | none => []
  | some ds => '.' :: ds

/-- The mark, the sign and the digits of an exponent. -/
def exponentText : Option (Bool × List Char) → List Char
  | none => []
  | some (negative, ds) => 'e' :: (if negative then '-' else '+') :: ds

/-- The text of a numeral after its sign. -/
def Numeral.text (n : Numeral) : List Char :=
  n.whole ++ (fractionText n.fraction ++ exponentText n.exponent)

/-- Digits stand wherever digits may stand, and no zero in front of others. -/
structure Numeral.Proper (n : Numeral) : Prop where
  whole : n.whole ≠ [] ∧ ∀ c ∈ n.whole, c.isDigit = true
  single : ∀ r, n.whole = '0' :: r → r = []
  fraction : ∀ ds, n.fraction = some ds → ds ≠ [] ∧ ∀ c ∈ ds, c.isDigit = true
  exponent : ∀ s ds, n.exponent = some (s, ds) → ds ≠ [] ∧ ∀ c ∈ ds, c.isDigit = true

theorem lexExponent_text {exponent : Option (Bool × List Char)}
    (proper : ∀ s ds, exponent = some (s, ds) → ds ≠ [] ∧ ∀ c ∈ ds, c.isDigit = true) :
    lexExponent (exponentText exponent) = .ok (exponent, []) := by
  cases exponent with
  | none => rfl
  | some e =>
    obtain ⟨negative, ds⟩ := e
    obtain ⟨some_, digits⟩ := proper negative ds rfl
    have sign : exponentSign ((if negative then '-' else '+') :: ds) = (negative, ds) := by
      cases negative <;> rfl
    have spanned : spanDigits ds = (ds, []) := by
      have all : spanDigits (ds ++ []) = (ds, []) := spanDigits_of_digits digits nofun
      rwa [List.append_nil] at all
    rw [exponentText, lexExponent_cons (.inl rfl), sign, exponentDigits, spanned]
    split
    · next none_ => exact absurd (Prod.mk.inj none_).1 some_
    · next same =>
      cases same
      rfl

theorem lexFraction_text {fraction : Option (List Char)} {rest : List Char}
    (proper : ∀ ds, fraction = some ds → ds ≠ [] ∧ ∀ c ∈ ds, c.isDigit = true)
    (ends : ∀ c ∈ rest.head?, c.isDigit = false ∧ c ≠ '.') :
    lexFraction (fractionText fraction ++ rest) = .ok (fraction, rest) := by
  cases fraction with
  | none => exact lexFraction_unpointed fun c there => (ends c there).2
  | some ds =>
    obtain ⟨some_, digits⟩ := proper ds rfl
    rw [fractionText, List.cons_append, lexFraction,
      spanDigits_of_digits digits fun c there => (ends c there).1]
    split
    · next none_ => exact absurd (Prod.mk.inj none_).1 some_
    · next same =>
      cases same
      rfl

theorem lexWhole_digits {ds rest : List Char} (some_ : ds ≠ []) (digits : ∀ c ∈ ds, c.isDigit = true)
    (single : ∀ r, ds = '0' :: r → r = []) (ends : ∀ c ∈ rest.head?, c.isDigit = false) :
    lexWhole (ds ++ rest) = .ok (ds, rest) := by
  rw [lexWhole, spanDigits_of_digits digits ends]
  split
  · next none_ => exact absurd (Prod.mk.inj none_).1 some_
  · next zero_ => cases single _ (Prod.mk.inj zero_).1
  · next same =>
    cases same
    rfl

/-- A numeral is read as it is written. -/
theorem lexNumeral_text {n : Numeral} (proper : n.Proper) :
    lexNumeral n.negative n.text = .ok (n, []) := by
  obtain ⟨⟨some_, digits⟩, single, fraction, exponent⟩ := proper
  -- no part begins with a digit, so the digits of the part before it end there
  have marked : ∀ c ∈ (exponentText n.exponent).head?, c.isDigit = false ∧ c ≠ '.' := by
    intro c there
    cases h : n.exponent with
    | none =>
      rw [h] at there
      cases there
    | some e =>
      rw [h] at there
      cases there
      decide
  have pointed : ∀ c ∈ (fractionText n.fraction ++ exponentText n.exponent).head?,
      c.isDigit = false := by
    intro c there
    cases h : n.fraction with
    | none =>
      rw [h] at there
      exact (marked c there).1
    | some ds =>
      rw [h] at there
      cases there
      rfl
  rw [lexNumeral, Numeral.text, lexWhole_digits some_ digits single pointed]
  simp only [bind, Except.bind, lexFraction_text fraction marked, lexExponent_text exponent]
  rfl

/-! ## Numbers that are written as numerals -/

theorem value_of_digit {c : Char} (digit : c.isDigit = true) (fuel depth : Nat) (cs : List Char) :
    value nothingForeign (fuel + 1) depth (c :: cs) = number c false (c :: cs) := by
  rw [value]
  · rw [if_pos digit]
  all_goals exact fun h => absurd (h ▸ digit) (by decide)

/-- A number is written as a numeral, and `v` is the value of this. -/
structure WrittenAs (n : Number) (k : Numeral) (v : Number) : Prop where
  proper : k.Proper
  value : k.value = some v
  text : n.render.toList = (if k.negative then ['-'] else []) ++ k.text

namespace WrittenAs

variable {n v : Number} {k : Numeral}

/-- The text begins with a sign or a digit. -/
theorem render_eq_cons (written : WrittenAs n k v) :
    ∃ c r, n.render.toList = c :: r ∧ (c = '-' ∨ c.isDigit = true) := by
  rw [written.text]
  split
  · exact ⟨_, _, rfl, .inl rfl⟩
  · obtain ⟨c, r, whole⟩ := List.exists_cons_of_ne_nil written.proper.whole.1
    have digit : c.isDigit = true := written.proper.whole.2 c (whole ▸ List.mem_cons_self)
    rw [List.nil_append, Numeral.text, whole]
    exact ⟨c, _, rfl, .inr digit⟩

theorem number_append (written : WrittenAs n k v) (opening : Char) {rest : List Char}
    (next : Delimited rest) : number opening k.negative (k.text ++ rest) = (.num v, some rest) := by
  have alone : number opening k.negative k.text = (.num v, some []) := by
    simp only [number, lexNumeral_text written.proper, written.value]
  exact Reader.number_append next alone

/-- A number is read as the value of its numeral, whatever comes after it. -/
theorem value_append (written : WrittenAs n k v) (fuel depth : Nat) {rest : List Char}
    (next : Delimited rest) :
    Reader.value nothingForeign (fuel + 1) depth (n.render.toList ++ rest) = (.num v, some rest) := by
  have read (opening : Char) := written.number_append opening next
  rw [written.text]
  cases sign : k.negative with
  | true =>
    rw [sign] at read
    rw [if_pos rfl, List.singleton_append, List.cons_append, Reader.value]
    exact read '-'
  | false =>
    rw [sign] at read
    rw [if_neg Bool.false_ne_true, List.nil_append]
    obtain ⟨c, r, whole⟩ := List.exists_cons_of_ne_nil written.proper.whole.1
    have digit : c.isDigit = true := written.proper.whole.2 c (whole ▸ List.mem_cons_self)
    rw [Numeral.text, whole, List.cons_append, List.cons_append] at read ⊢
    rw [value_of_digit digit]
    exact read c

theorem reread_eq (written : WrittenAs n k v) : n.reread = some v := by
  have read := written.value_append 0 0 delimited_nil
  rw [List.append_nil] at read
  rw [Number.reread, read]

end WrittenAs

/-! ## Integers of 64 bits -/

/-- Digits whose number fits 64 bits are all taken. -/
theorem significand_of_lt {ds : List Char} {acc : Nat}
    (h : Nat.ofDigitChars 10 ds acc < Nat.pow 2 64) :
    significand acc ds = (Nat.ofDigitChars 10 ds acc, 0) := by
  induction ds generalizing acc with
  | nil => rw [significand, Nat.ofDigitChars_nil]
  | cons c cs ih =>
    rw [Nat.ofDigitChars_cons] at h ⊢
    -- further digits only make the number larger, so it fits after every digit
    have grows : 10 * acc + (c.toNat - '0'.toNat) ≤
        Nat.ofDigitChars 10 cs (10 * acc + (c.toNat - '0'.toNat)) := by
      rw [Nat.ofDigitChars_eq_ofDigitChars_zero]
      exact Nat.le_trans (Nat.le_mul_of_pos_left _ (Nat.pow_pos (by omega))) (Nat.le_add_right _ _)
    have same : acc * 10 + digit c = 10 * acc + (c.toNat - '0'.toNat) := by
      rw [digit, Nat.mul_comm]
    rw [significand, same, if_pos (Nat.lt_of_le_of_lt grows h), ih h]

/-- Only zero is written with a zero in front. -/
theorem toDigits_head {n : Nat} {r : List Char} (h : Nat.toDigits 10 n = '0' :: r) : r = [] := by
  obtain ⟨ds, spelt⟩ := exists_spelt (by decide : 1 < 10) n
  have written := spelt.written.symm.trans h
  cases ds with
  | nil => cases written
  | cons d ds =>
    obtain ⟨first, later⟩ := List.cons.inj written
    have alone := spelt.lead (congrArg some (Nat.digitChar_eq_zero.1 first))
    have none_ : ds = [] := by simpa using alone
    rw [← later, none_]
    rfl

theorem isDigit_of_mem_toDigits {n : Nat} {c : Char} (mem : c ∈ Nat.toDigits 10 n) :
    c.isDigit = true :=
  Nat.isDigit_of_mem_toDigits (by omega) (by omega) mem

theorem toDigits_eq_cons (n : Nat) : ∃ c r, Nat.toDigits 10 n = c :: r ∧ c.isDigit = true := by
  cases h : Nat.toDigits 10 n with
  | nil => exact absurd h Nat.toDigits_ne_nil
  | cons c r => exact ⟨c, r, rfl, isDigit_of_mem_toDigits (h ▸ List.mem_cons_self)⟩

/-- A numeral without point and exponent stands for an integer, with or without a sign. -/
theorem value_toDigits (n : Nat) (h : n < Nat.pow 2 64) :
    Numeral.value ⟨false, Nat.toDigits 10 n, none, none⟩ = some (.int n) := by
  have taken : significand 0 (Nat.toDigits 10 n) = (n, 0) := by
    rw [significand_of_lt] <;> rw [Nat.ofDigitChars_ten_toDigits]
    exact h
  simp [Numeral.value, taken]

theorem value_toDigits_negative {n : Nat} (positive : n ≠ 0) (h : n ≤ Nat.pow 2 63) :
    Numeral.value ⟨true, Nat.toDigits 10 n, none, none⟩ = some (.int (-(n : Int))) := by
  have taken : significand 0 (Nat.toDigits 10 n) = (n, 0) := by
    rw [significand_of_lt] <;> rw [Nat.ofDigitChars_ten_toDigits]
    exact Nat.lt_of_le_of_lt h (by decide)
  simp only [Numeral.value, taken]
  simp [positive]
  exact h

theorem render_int (n : Int) : (Number.int n).render.toList =
    if 0 ≤ n then Nat.toDigits 10 n.toNat else '-' :: Nat.toDigits 10 (-n).toNat := by
  rw [Number.render, Int.toString_eq_repr, Int.repr_eq_if]
  split
  · exact Nat.toList_repr
  · rw [String.toList_append, Nat.toList_repr]
    rfl

/-- No two integers are written alike. -/
theorem render_int_inj {m n : Int} : (Number.int m).render = (Number.int n).render ↔ m = n := by
  have unsigned (a b : Nat) : '-' :: Nat.toDigits 10 a ≠ Nat.toDigits 10 b := by
    intro same
    have minus : '-'.isDigit = true := isDigit_of_mem_toDigits (same ▸ List.mem_cons_self)
    exact absurd minus (by decide)
  have digits {a b : Nat} (same : Nat.toDigits 10 a = Nat.toDigits 10 b) : a = b := by
    rw [← Nat.ofDigitChars_ten_toDigits (n := a), same, Nat.ofDigitChars_ten_toDigits]
  constructor
  · intro same
    have texts := congrArg String.toList same
    rw [render_int, render_int] at texts
    split at texts
    · split at texts
      · have := digits texts
        omega
      · exact absurd texts.symm (unsigned _ _)
    · split at texts
      · exact absurd texts (unsigned _ _)
      · have := digits (List.cons.inj texts).2
        omega
  · rintro rfl
    rfl

/-- An integer of 64 bits is written as a numeral that has it as its value. -/
theorem exists_writtenAs_of_isIntegral {n : Number} (h : n.isIntegral = true) :
    ∃ k, WrittenAs n k n := by
  cases n with
  | float x => cases h
  | int n =>
    simp only [Number.isIntegral, Bool.and_eq_true, decide_eq_true_eq] at h
    have proper (negative : Bool) (m : Nat) :
        Numeral.Proper ⟨negative, Nat.toDigits 10 m, none, none⟩ :=
      ⟨⟨Nat.toDigits_ne_nil, fun c => isDigit_of_mem_toDigits⟩, fun r => toDigits_head, nofun, nofun⟩
    have text (negative : Bool) (m : Nat) :
        Numeral.text ⟨negative, Nat.toDigits 10 m, none, none⟩ = Nat.toDigits 10 m :=
      List.append_nil _
    by_cases positive : 0 ≤ n
    · refine ⟨_, proper false n.toNat, ?_, ?_⟩
      · rw [value_toDigits n.toNat (by omega), Int.toNat_of_nonneg positive]
      · rw [render_int, if_pos positive, text]
        rfl
    · refine ⟨_, proper true (-n).toNat, ?_, ?_⟩
      · rw [value_toDigits_negative (by omega) (by omega)]
        congr 2
        omega
      · rw [render_int, if_neg positive, text]
        rfl

end Reader

end PluginKit.Json
