import PluginKit.Proofs.Decimal
import PluginKit.Proofs.Json.Magnitudes

/-!
# Floating point numbers in texts

A finite number is written with its shortest decimal, in one of five forms. Each is a numeral whose
magnitude is that of the decimal (`Written`). The decimal may lie half a unit above the number, and
reading takes three roundings more, so only the greatest three numbers of either sign come so near to the
end of the range that they need to be tried out (`greatest`). The others have a value by their size alone.

## Main statements

- `exists_written`: a decimal is written as a numeral.
- `Written.exists_value`: the numeral has a value if the decimal stays a little below the largest number.
- `exists_writtenAs_of_isRanged`: a finite number, or an integer of 64 bits, is written as a numeral that
  has a value.
-/

namespace PluginKit.Json

open Binary64

/-- Whether a number is an integer that fits 64 bits, signed or unsigned, or a finite floating point
number. -/
def Number.isRanged : Number → Bool
  | .int n => (Number.int n).isIntegral
  | .float x => x.isFinite

theorem Number.isRanged_of_isIntegral (n : Number) (h : n.isIntegral = true) : n.isRanged = true := by
  cases n with
  | int n => exact h
  | float x => cases h

namespace Reader

/-! ## Digits -/

theorem ofDigitChars_lt {ds : List Char} (digits : ∀ c ∈ ds, c.isDigit = true) :
    Nat.ofDigitChars 10 ds 0 < 10 ^ ds.length := by
  induction ds with
  | nil => exact Nat.one_pos
  | cons c cs ih =>
    have first : c.toNat - '0'.toNat ≤ 9 := by
      have digit := digits c List.mem_cons_self
      rw [Char.isDigit, Bool.and_eq_true, decide_eq_true_eq, decide_eq_true_eq] at digit
      have top : c.toNat ≤ 57 := digit.2
      change c.toNat - 48 ≤ 9
      omega
    have others := ih fun d mem => digits d (List.mem_cons_of_mem c mem)
    rw [Nat.ofDigitChars_cons, Nat.ofDigitChars_eq_ofDigitChars_zero, List.length_cons, Nat.pow_succ]
    nlinarith [Nat.mul_le_mul_left (10 ^ cs.length) first]

/-! ## Written decimals -/

/-- The numerals that a decimal is written as: with zeros after its digits, with a point between them,
with zeros before them, and with an exponent after one digit or more. -/
inductive Written (negative : Bool) (d : Decimal) : Numeral → Prop where
  | whole {k : Nat} (power : d.power = k) (short : (digitsOf d.digits).length + k ≤ 16) :
    Written negative d ⟨negative, digitsOf d.digits ++ List.replicate k '0', some ['0'], none⟩
  | pointed {k : Nat} (power : d.power = k + 1 - (digitsOf d.digits).length)
      (inside : k + 1 < (digitsOf d.digits).length) (short : k + 1 ≤ 16) :
    Written negative d
      ⟨negative, (digitsOf d.digits).take (k + 1), some ((digitsOf d.digits).drop (k + 1)), none⟩
  | small {k : Nat} (power : d.power = -(k + (digitsOf d.digits).length)) :
    Written negative d ⟨negative, ['0'], some (List.replicate k '0' ++ digitsOf d.digits), none⟩
  | single {c : Char} {e : Int} (digits : digitsOf d.digits = [c]) (power : d.power = e) :
    Written negative d ⟨negative, [c], none, some (decide (e < 0), digitsOf e.natAbs)⟩
  | scaled {c c' : Char} {r : List Char} {e : Int} (digits : digitsOf d.digits = c :: c' :: r)
      (power : d.power = e - (c' :: r).length) :
    Written negative d ⟨negative, [c], some (c' :: r), some (decide (e < 0), digitsOf e.natAbs)⟩

variable {d : Decimal} {negative : Bool} {n : Numeral}

theorem exists_written (negative : Bool) (d : Decimal) :
    ∃ n, Written negative d n ∧ (numberFormat.write d).toList = n.text := by
  have least : numberFormat.least = -5 := rfl
  have most : numberFormat.most = 15 := rfl
  have some_ : 0 < (digitsOf d.digits).length := List.length_pos_of_ne_nil Nat.toDigits_ne_nil
  unfold DecimalFormat.write
  simp only
  split
  · split
    · next whole =>
      obtain ⟨k, power⟩ := Int.eq_ofNat_of_zero_le whole
      refine ⟨_, .whole power (by omega), ?_⟩
      simp [Numeral.text, fractionText, exponentText, power]
    · split
      · next above =>
        obtain ⟨k, taken⟩ := Int.eq_ofNat_of_zero_le above
        refine ⟨_, .pointed (k := k) (by omega) (by omega) (by omega), ?_⟩
        rw [taken]
        simp [Numeral.text, fractionText, exponentText]
      · next below =>
        obtain ⟨k, zeros⟩ : ∃ k : Nat, -(d.power + (digitsOf d.digits).length - 1) - 1 = k :=
          Int.eq_ofNat_of_zero_le (by omega)
        refine ⟨_, .small (k := k) (by omega), ?_⟩
        rw [zeros]
        simp [Numeral.text, fractionText, exponentText]
  · have power (n : Nat) : (toString n).toList = digitsOf n := Nat.toList_repr
    obtain ⟨e, exponent⟩ : ∃ e : Int, d.power + (digitsOf d.digits).length - 1 = e := ⟨_, rfl⟩
    have sign : (if e < 0 then "-" else "+").toList = [if e < 0 then '-' else '+'] := by
      split <;> rfl
    rw [exponent, String.toList_append, String.toList_append, String.toList_append, power]
    simp only [numberFormat, sign]
    obtain ⟨c, r, digits, -⟩ := toDigits_eq_cons d.digits
    change digitsOf d.digits = c :: r at digits
    rw [digits] at exponent ⊢
    rw [List.length_cons] at exponent
    cases r with
    | nil =>
      refine ⟨_, .single digits (e := e) (by simpa using exponent), ?_⟩
      simp [Numeral.text, fractionText, exponentText]
    | cons c' r =>
      refine ⟨_, .scaled digits (e := e) (by omega), ?_⟩
      simp [Numeral.text, fractionText, exponentText]

/-- A decimal has digits, or it is a plain zero. -/
def Plain (d : Decimal) : Prop := 0 < d.digits ∨ d.digits = 0 ∧ d.power = 0

/-- Only zero is written with a zero at the start. -/
theorem digits_head {n : Nat} (some_ : 0 < n) {c : Char} {r : List Char}
    (written : digitsOf n = c :: r) : c ≠ '0' := by
  rintro rfl
  have nothing : n = 0 := by
    rw [← Nat.ofDigitChars_ten_toDigits (n := n), ← digitsOf, written, toDigits_head written]
    rfl
  omega

namespace Written

theorem proper (written : Written negative d n) (plain : Plain d) : n.Proper := by
  have all (n : Nat) : ∀ c ∈ digitsOf n, c.isDigit = true := fun c => isDigit_of_mem_toDigits
  have zeros (n : Nat) : ∀ c ∈ List.replicate n '0', c.isDigit = true := by
    intro c mem
    rw [(List.mem_replicate.1 mem).2]
    rfl
  obtain ⟨c, r, digits, first⟩ := toDigits_eq_cons d.digits
  change digitsOf d.digits = c :: r at digits
  cases written with
  | whole power short =>
    refine ⟨⟨by simp [digits], ?_⟩, ?_, ?_, nofun⟩
    · intro d mem
      exact (List.mem_append.1 mem).elim (all _ d) (zeros _ d)
    · intro s same
      rw [digits] at same
      -- a zero in front is all there is of a plain zero, which has no zeros after it
      rcases plain with some_ | ⟨none_, nothing⟩
      · exact absurd (List.cons.inj same).1 (digits_head some_ digits)
      · rw [none_] at digits
        cases digits
        cases power.symm.trans nothing
        exact (List.cons.inj same).2.symm
    · intro ds same
      cases same
      exact ⟨by simp, by simp⟩
  | pointed power inside short =>
    refine ⟨⟨by simp [digits], ?_⟩, ?_, ?_, nofun⟩
    · intro d mem
      exact all _ d (List.mem_of_mem_take mem)
    · intro s same
      rw [digits] at same
      exact absurd (List.cons.inj same).1 (digits_head (plain.resolve_right (by omega)) digits)
    · intro ds same
      cases same
      exact ⟨by simpa using inside, fun d mem => all _ d (List.mem_of_mem_drop mem)⟩
  | small power =>
    refine ⟨⟨by simp, by simp⟩, ?_, ?_, nofun⟩
    · intro s same
      exact (List.cons.inj same).2.symm
    · intro ds same
      cases same
      exact ⟨by simp [digits], fun d mem => (List.mem_append.1 mem).elim (zeros _ d) (all _ d)⟩
  | single digits power =>
    have digit := all d.digits
    rw [digits] at digit
    refine ⟨⟨by simp, digit⟩, ?_, nofun, ?_⟩
    · intro s same
      exact (List.cons.inj same).2.symm
    · intro s ds same
      cases same
      exact ⟨Nat.toDigits_ne_nil, all _⟩
  | scaled digits power =>
    have digit := all d.digits
    rw [digits, List.forall_mem_cons] at digit
    refine ⟨⟨by simp, by simpa using digit.1⟩, ?_, ?_, ?_⟩
    · intro s same
      exact (List.cons.inj same).2.symm
    · intro ds same
      cases same
      exact ⟨by simp, digit.2⟩
    · intro s ds same
      cases same
      exact ⟨Nat.toDigits_ne_nil, all _⟩

theorem power_exponent {whole : List Char} {fraction : Option (List Char)} (negative : Bool) (e : Int) :
    Numeral.power ⟨negative, whole, fraction, some (decide (e < 0), digitsOf e.natAbs)⟩ = e := by
  have digits : Nat.ofDigitChars 10 (digitsOf e.natAbs) 0 = e.natAbs :=
    Nat.ofDigitChars_ten_toDigits
  simp only [Numeral.power, digits, decide_eq_true_eq]
  split <;> omega

/-- A numeral gives the number that the decimal is. -/
theorem amount_eq (written : Written negative d n) : n.amount = d.amount := by
  have digits : Nat.ofDigitChars 10 (digitsOf d.digits) 0 = d.digits :=
    Nat.ofDigitChars_ten_toDigits
  have zero_ (n : Nat) : Nat.ofDigitChars 10 ['0'] n = 10 * n := rfl
  unfold Decimal.amount
  cases written with
  | whole power short =>
    simp only [Numeral.amount, Numeral.power, Option.getD_some, Nat.ofDigitChars_append, digits,
      Nat.ofDigitChars_replicate_zero, zero_, power]
    simp
    ring
  | pointed power inside short =>
    simp only [Numeral.amount, Numeral.power, Option.getD_some, List.take_append_drop, digits,
      List.length_drop]
    congr 2
    omega
  | small power =>
    simp only [Numeral.amount, Numeral.power, Option.getD_some, Nat.ofDigitChars_append, zero_,
      Nat.ofDigitChars_replicate_zero, Nat.mul_zero, digits, List.length_append,
      List.length_replicate]
    congr 2
    omega
  | single one power =>
    rw [one] at digits
    simp [Numeral.amount, power_exponent, digits, power]
  | scaled more power =>
    rw [more] at digits
    simp [Numeral.amount, power_exponent, digits, power]

theorem length_whole (written : Written negative d n) : n.whole.length ≤ 16 := by
  cases written with
  | whole power short => simpa using short
  | pointed power inside short => simp only [List.length_take]; omega
  | small power => simp
  | single digits power => simp
  | scaled digits power => simp

theorem whole_lt (written : Written negative d n) (plain : Plain d) :
    Nat.ofDigitChars 10 n.whole 0 < 2 ^ 64 := by
  calc Nat.ofDigitChars 10 n.whole 0 < 10 ^ n.whole.length :=
        ofDigitChars_lt (written.proper plain).whole.2
    _ ≤ 10 ^ 16 := Nat.pow_le_pow_right (by decide) written.length_whole
    _ < 2 ^ 64 := by decide

/-- A numeral has a point or an exponent. -/
theorem float (written : Written negative d n) : n.fraction.isSome ∨ n.exponent.isSome := by
  cases written with
  | whole => exact .inl rfl
  | pointed => exact .inl rfl
  | small => exact .inl rfl
  | single => exact .inr rfl
  | scaled => exact .inr rfl

end Written

/-- The first digit alone is at least one, and every other digit makes ten times more. -/
theorem le_digits {n : Nat} (some_ : 0 < n) : 10 ^ ((digitsOf n).length - 1) ≤ n := by
  rcases Nat.eq_zero_or_pos ((digitsOf n).length - 1) with single | more
  · rw [single]
    exact some_
  · refine Nat.not_lt.1 fun short => ?_
    have least := (Nat.length_toDigits_le_iff (by decide) more).2 short
    have length : (digitsOf n).length = (Nat.toDigits 10 n).length := rfl
    omega

/-- The exponent of the first digit is at most the greatest power of ten within the range. -/
theorem exponent_le (plain : Plain d) (within : d.amount < limit) :
    d.power + (digitsOf d.digits).length - 1 ≤ 308 := by
  have length : 0 < (digitsOf d.digits).length := List.length_pos_of_ne_nil Nat.toDigits_ne_nil
  rcases plain with some_ | ⟨none_, whole⟩
  · -- the first digit alone would leave the range
    by_contra beyond
    obtain ⟨k, power⟩ : ∃ k : Nat, d.power + ((digitsOf d.digits).length : Int) - 1 = k :=
      Int.eq_ofNat_of_zero_le (by omega)
    have first : ((10 ^ ((digitsOf d.digits).length - 1) : ℕ) : ℚ) ≤ d.digits := by
      exact_mod_cast le_digits some_
    have least : (10 : ℚ) ^ k ≤ d.amount := by
      calc (10 : ℚ) ^ k = (10 ^ ((digitsOf d.digits).length - 1) : ℕ) * 10 ^ d.power := by
            push_cast
            rw [← zpow_natCast, ← zpow_natCast, ← zpow_add₀ (by norm_num)]
            congr 1
            omega
        _ ≤ d.digits * 10 ^ d.power := by gcongr
    linarith [limit_lt_ten_pow (n := k) (by omega)]
  · have single : (digitsOf d.digits).length = 1 := by
      rw [none_]
      rfl
    omega

theorem Written.power_lt (written : Written negative d n) (plain : Plain d)
    (within : d.amount < limit) : n.power < 2 ^ 31 := by
  have most := exponent_le plain within
  cases written with
  | whole => exact (by decide : (0 : Int) < 2 ^ 31)
  | pointed => exact (by decide : (0 : Int) < 2 ^ 31)
  | small => exact (by decide : (0 : Int) < 2 ^ 31)
  | single digits power =>
    rw [digits, List.length_singleton] at most
    rw [Written.power_exponent]
    omega
  | scaled digits power =>
    rw [digits, List.length_cons] at most
    rw [Written.power_exponent]
    omega

/-- A decimal that stays a little below the largest number is written as a numeral that has a value. -/
theorem Written.exists_value (written : Written negative d n) (plain : Plain d)
    (within : d.amount ≤ limit * (1 - 7 / 2 ^ 54)) : ∃ v, n.value = some v := by
  have less : d.amount < limit := by linarith [limit_pos]
  exact Numeral.exists_value written.float (written.whole_lt plain) (written.power_lt plain less)
    (written.amount_eq.trans_le within)

/-! ## The greatest numbers -/

/-- The numeral of one of the greatest numbers, which differ in their last digit. -/
def topNumeral (negative : Bool) (last : Char) : Numeral :=
  ⟨negative, ['1'], some ("797693134862315".toList ++ [last]), some (false, ['3', '0', '8'])⟩

theorem topNumeral_proper (negative : Bool) {last : Char} (digit : last.isDigit = true) :
    (topNumeral negative last).Proper := by
  refine ⟨⟨by simp [topNumeral], by simp [topNumeral]⟩, ?_, ?_, ?_⟩
  · intro r same
    cases same
  · intro ds same
    cases same
    simp [digit]
  · intro s ds same
    cases same
    simp

/-- The greatest three numbers of either sign, with their signs and their last digits. -/
def greatest : List (Binary64 × Bool × Char) :=
  [(⟨0x7FEFFFFFFFFFFFFF⟩, false, '7'), (⟨0x7FEFFFFFFFFFFFFE⟩, false, '5'),
    (⟨0x7FEFFFFFFFFFFFFD⟩, false, '3'), (⟨0xFFEFFFFFFFFFFFFF⟩, true, '7'),
    (⟨0xFFEFFFFFFFFFFFFE⟩, true, '5'), (⟨0xFFEFFFFFFFFFFFFD⟩, true, '3')]

theorem greatest_spec : ∀ p ∈ greatest, p.2.2.isDigit = true ∧
    (topNumeral p.2.1 p.2.2).value.isSome = true ∧
    (Number.float p.1).render.toList =
      (if p.2.1 then ['-'] else []) ++ (topNumeral p.2.1 p.2.2).text := by
  decide +kernel

theorem exists_writtenAs_of_greatest {p : Binary64 × Bool × Char} (mem : p ∈ greatest) :
    ∃ k v, WrittenAs (.float p.1) k v := by
  obtain ⟨digit, known, text⟩ := greatest_spec p mem
  obtain ⟨v, value⟩ := Option.isSome_iff_exists.1 known
  exact ⟨_, v, topNumeral_proper p.2.1 digit, value, text⟩

theorem mem_greatest {x : Binary64} (top : x.biased = 2046) (last : 2 ^ 52 - 3 ≤ x.fraction) :
    x ∈ greatest.map Prod.fst := by
  obtain ⟨bits⟩ := x
  have range := bits.toNat_lt
  simp only [Binary64.biased, Binary64.fraction, Nat.pow_eq] at top last
  have cases_ : bits.toNat = 0x7FEFFFFFFFFFFFFF ∨ bits.toNat = 0x7FEFFFFFFFFFFFFE ∨
      bits.toNat = 0x7FEFFFFFFFFFFFFD ∨ bits.toNat = 0xFFEFFFFFFFFFFFFF ∨
      bits.toNat = 0xFFEFFFFFFFFFFFFE ∨ bits.toNat = 0xFFEFFFFFFFFFFFFD := by
    omega
  simp only [greatest, List.map_cons, List.map_nil, List.mem_cons, Binary64.mk.injEq,
    ← UInt64.toNat_inj, List.not_mem_nil, or_false]
  exact cases_

/-- Every other finite number stays a little below the largest one. -/
theorem le_of_not_greatest {x : Binary64} (finite : x.isFinite = true)
    (apart : x ∉ greatest.map Prod.fst) :
    (x.mantissa + 1 / 2) * 2 ^ x.exponent ≤ limit * (1 - 7 / 2 ^ 54) := by
  have room : x.fraction < 2 ^ 52 := Nat.mod_lt _ (by decide)
  have below : x.biased < 2 ^ 11 := Nat.mod_lt _ (by decide)
  have other : x.biased ≠ 2047 := by simpa [isFinite] using finite
  have fits : x.mantissa ≤ 2 ^ 53 - 1 ∧ x.exponent ≤ 971 ∧
      (x.exponent = 971 → x.mantissa ≤ 2 ^ 53 - 4) := by
    unfold mantissa exponent
    rw [Nat.pow_eq]
    split
    · omega
    · refine ⟨by omega, by omega, fun last => ?_⟩
      by_contra more
      exact apart (mem_greatest (by omega) (by omega))
  obtain ⟨most, bound, last⟩ := fits
  have limit_eq : limit = 2 ^ 53 * 2 ^ (971 : ℤ) := by
    rw [limit, ← zpow_natCast, ← zpow_add₀ two_ne_zero]
    rfl
  have whole : limit * (1 - 7 / 2 ^ 54) = (2 ^ 53 - 7 / 2) * 2 ^ (971 : ℤ) := by
    rw [limit_eq]
    ring
  rw [whole]
  -- below the greatest exponent a number is at most half as large as the largest one
  rcases lt_or_eq_of_le bound with less | same
  · have half : (2 : ℚ) ^ x.exponent ≤ 2 ^ (971 : ℤ) / 2 := by
      calc (2 : ℚ) ^ x.exponent ≤ 2 ^ ((971 : ℤ) - 1) := zpow_le_zpow_right₀ one_le_two (by omega)
        _ = 2 ^ (971 : ℤ) / 2 := by rw [zpow_sub_one₀ two_ne_zero, div_eq_mul_inv]
    have full : (x.mantissa : ℚ) + 1 ≤ 2 ^ 53 := by
      exact_mod_cast (by omega : x.mantissa + 1 ≤ 2 ^ 53)
    calc ((x.mantissa : ℚ) + 1 / 2) * 2 ^ x.exponent ≤ 2 ^ 53 * (2 ^ (971 : ℤ) / 2) := by
          gcongr
          linarith
      _ = 2 ^ 52 * 2 ^ (971 : ℤ) := by ring
      _ ≤ (2 ^ 53 - 7 / 2) * 2 ^ (971 : ℤ) := by
          gcongr
          norm_num
  · have full : (x.mantissa : ℚ) + 4 ≤ 2 ^ 53 := by
      have few := last same
      exact_mod_cast (by omega : x.mantissa + 4 ≤ 2 ^ 53)
    rw [same]
    gcongr
    linarith

/-- A number is written as a sign and a decimal, which stays as small as the number does. -/
theorem exists_decimal {x : Binary64} (finite : x.isFinite = true)
    (apart : x ∉ greatest.map Prod.fst) :
    ∃ d, Plain d ∧ d.amount ≤ limit * (1 - 7 / 2 ^ 54) ∧
      (Number.float x).render.toList =
        (if x.isNegative then ['-'] else []) ++ (numberFormat.write d).toList := by
  have sign (d : Decimal) (same : (if x.isZero then "0.0" else numberFormat.write x.shortest) =
      numberFormat.write d) : (Number.float x).render.toList =
        (if x.isNegative then ['-'] else []) ++ (numberFormat.write d).toList := by
    rw [Number.render, DecimalFormat.text, same]
    split
    · exact String.toList_append
    · rfl
  cases zero_ : x.isZero with
  | true =>
    refine ⟨⟨0, 0⟩, .inr ⟨rfl, rfl⟩, ?_, sign _ ?_⟩
    · rw [Decimal.amount, Nat.cast_zero, zero_mul]
      exact mul_nonneg limit_pos.le (by norm_num)
    · rw [if_pos zero_]
      rfl
  | false =>
    refine ⟨x.shortest, shortest_proper zero_, ?_, sign _ ?_⟩
    · exact (shortest_le zero_).trans (le_of_not_greatest finite apart)
    · rw [if_neg (Bool.eq_false_iff.1 zero_)]

/-- A finite number is written as a numeral that has a value. -/
theorem exists_writtenAs_of_isFinite {x : Binary64} (finite : x.isFinite = true) :
    ∃ k v, WrittenAs (.float x) k v := by
  by_cases top : x ∈ greatest.map Prod.fst
  · obtain ⟨p, mem, rfl⟩ := List.mem_map.1 top
    exact exists_writtenAs_of_greatest mem
  · obtain ⟨d, plain, within, text⟩ := exists_decimal finite top
    obtain ⟨n, written, same⟩ := exists_written x.isNegative d
    obtain ⟨v, known⟩ := written.exists_value plain within
    have negative : n.negative = x.isNegative := by cases written <;> rfl
    exact ⟨n, v, written.proper plain, known, by rw [text, same, negative]⟩

/-- A number within its range is written as a numeral that has a value. -/
theorem exists_writtenAs_of_isRanged {n : Number} (ranged : n.isRanged = true) :
    ∃ k v, WrittenAs n k v := by
  cases n with
  | int n =>
    obtain ⟨k, written⟩ := exists_writtenAs_of_isIntegral (n := .int n) ranged
    exact ⟨k, _, written⟩
  | float x => exact exists_writtenAs_of_isFinite ranged

end Reader

end PluginKit.Json
