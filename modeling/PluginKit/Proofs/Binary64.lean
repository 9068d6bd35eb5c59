import Mathlib.Algebra.Order.Field.Power
import Mathlib.Tactic.FieldSimp
import Mathlib.Tactic.Linarith
import Mathlib.Tactic.Positivity
import Mathlib.Tactic.Ring
import PluginKit.Binary64

/-!
# Rounding to floating point numbers

A fraction is rounded to 53 bits, or to fewer where the exponent is the least one. So the result is off
by at most half of its last bit, and it is refused only where it would lie beyond the largest number.
Products and quotients are rounded fractions as well.

## Main statements

- `rounds_ofRatio`: a fraction is rounded with an error of at most half of the last bit.
- `Rounds.exists_of_one_le`: from one on, and within the range, the error is small beside the number.
-/

namespace PluginKit.Binary64

/-! ## Magnitudes -/

/-- The magnitude of a finite number. -/
def amount (x : Binary64) : ℚ := x.mantissa * 2 ^ x.exponent

theorem amount_nonneg (x : Binary64) : 0 ≤ x.amount := by
  unfold amount
  positivity

theorem ratio_den_pos (x : Binary64) : 0 < x.ratio.2 := by
  unfold ratio
  split
  · exact Nat.two_pow_pos _
  · exact Nat.one_pos

theorem amount_eq_ratio (x : Binary64) : x.amount = x.ratio.1 / x.ratio.2 := by
  unfold amount ratio
  split
  · next below =>
    obtain ⟨k, power⟩ := Int.eq_ofNat_of_zero_le (show 0 ≤ -x.exponent by omega)
    have exponent : x.exponent = -(k : ℤ) := by omega
    simp [exponent, div_eq_mul_inv]
  · next above =>
    obtain ⟨k, power⟩ := Int.eq_ofNat_of_zero_le (show 0 ≤ x.exponent by omega)
    simp [power]

/-! ## Numbers from their parts -/

section Parts

variable {negative : Bool} {biased fraction : Nat}

theorem toNat_ofParts (fits : biased < 2048) (room : fraction < 2 ^ 52) :
    (ofParts negative biased fraction).bits.toNat =
      (if negative then 2 ^ 63 else 0) + biased * 2 ^ 52 + fraction := by
  simp only [ofParts, UInt64.toNat_ofNat', Nat.pow_eq]
  cases negative <;> simp <;> omega

theorem biased_ofParts (fits : biased < 2048) (room : fraction < 2 ^ 52) :
    (ofParts negative biased fraction).biased = biased := by
  simp only [Binary64.biased, toNat_ofParts fits room, Nat.pow_eq]
  cases negative <;> simp <;> omega

theorem fraction_ofParts (fits : biased < 2048) (room : fraction < 2 ^ 52) :
    (ofParts negative biased fraction).fraction = fraction := by
  simp only [Binary64.fraction, toNat_ofParts fits room, Nat.pow_eq]
  cases negative <;> simp <;> omega

theorem amount_ofParts_zero (room : fraction < 2 ^ 52) :
    (ofParts negative 0 fraction).amount = fraction * 2 ^ (-1074 : ℤ) := by
  have none_ : (0 : Nat) < 2048 := by decide
  simp [amount, mantissa, exponent, biased_ofParts none_ room, fraction_ofParts none_ room]

theorem amount_ofParts (normal : biased ≠ 0) (fits : biased < 2048) (room : fraction < 2 ^ 52) :
    (ofParts negative biased fraction).amount =
      (2 ^ 52 + fraction : ℕ) * 2 ^ ((biased : ℤ) - 1075) := by
  simp [amount, mantissa, exponent, biased_ofParts fits room, fraction_ofParts fits room, normal]

end Parts

/-! ## Mantissa and exponent of a fraction -/

section Fractions

variable {num den : Nat}

theorem abs_roundDiv_sub (positive : 0 < den) :
    |(roundDiv num den : ℚ) - num / den| ≤ 1 / 2 := by
  have parts := Nat.div_add_mod num den
  have rest := Nat.mod_lt num positive
  have next : den * (num / den + 1) = den * (num / den) + den := Nat.mul_succ den (num / den)
  -- it is twice the remainder that decides whether to round up, so it is compared to the divisor
  have near : 2 * num ≤ 2 * (den * roundDiv num den) + den ∧
      2 * (den * roundDiv num den) ≤ 2 * num + den := by
    unfold roundDiv
    simp only
    split
    · omega
    · split
      · omega
      · split <;> omega
  have den_pos : (0 : ℚ) < den := by exact_mod_cast positive
  have below : (2 * num : ℚ) ≤ 2 * (den * roundDiv num den) + den := by exact_mod_cast near.1
  have above : (2 * (den * roundDiv num den) : ℚ) ≤ 2 * num + den := by exact_mod_cast near.2
  rw [abs_le]
  constructor
  · rw [le_sub_iff_add_le, ← sub_eq_neg_add, sub_le_iff_le_add, div_le_iff₀ den_pos]
    linarith
  · rw [sub_le_iff_le_add, ← sub_le_iff_le_add', le_div_iff₀ den_pos]
    linarith

theorem scaled_den_pos (positive : 0 < den) (e : Int) : 0 < (scaled num den e).2 := by
  unfold scaled
  split
  · exact positive
  · rw [Nat.shiftLeft_eq]
    exact Nat.mul_pos positive (Nat.two_pow_pos _)

/-- Scaling divides by a power of two. -/
theorem scaled_div (e : Int) :
    ((scaled num den e).1 / (scaled num den e).2 : ℚ) = num / den / 2 ^ e := by
  unfold scaled
  split
  · obtain ⟨k, power⟩ := Int.eq_ofNat_of_zero_le (show 0 ≤ -e by omega)
    have exponent : e = -(k : ℤ) := by omega
    simp [exponent, Nat.shiftLeft_eq]
    ring
  · obtain ⟨k, rfl⟩ := Int.eq_ofNat_of_zero_le (show 0 ≤ e by omega)
    simp [Nat.shiftLeft_eq]
    ring

theorem log2_bounds {n : Nat} (positive : 0 < n) :
    (2 : ℚ) ^ (Nat.log2 n : ℤ) ≤ n ∧ (n : ℚ) < 2 ^ ((Nat.log2 n : ℤ) + 1) := by
  have below := Nat.log2_self_le (Nat.pos_iff_ne_zero.1 positive)
  have above := Nat.lt_log2_self (n := n)
  constructor
  · exact_mod_cast below
  · exact_mod_cast above

/-- A fraction lies between the powers of two that the lengths of its parts give. -/
theorem log2_sub_bounds (some_ : 0 < num) (positive : 0 < den) :
    (2 : ℚ) ^ ((Nat.log2 num : ℤ) - Nat.log2 den - 1) < num / den ∧
      (num / den : ℚ) < 2 ^ ((Nat.log2 num : ℤ) - Nat.log2 den + 1) := by
  obtain ⟨low, high⟩ := log2_bounds some_
  obtain ⟨low', high'⟩ := log2_bounds positive
  have den_pos : (0 : ℚ) < den := by exact_mod_cast positive
  constructor
  · rw [lt_div_iff₀ den_pos]
    calc (2 : ℚ) ^ ((Nat.log2 num : ℤ) - Nat.log2 den - 1) * den
        < 2 ^ ((Nat.log2 num : ℤ) - Nat.log2 den - 1) * 2 ^ ((Nat.log2 den : ℤ) + 1) := by gcongr
      _ = 2 ^ (Nat.log2 num : ℤ) := by
        rw [← zpow_add₀ two_ne_zero]
        ring_nf
      _ ≤ num := low
  · rw [div_lt_iff₀ den_pos]
    calc (num : ℚ) < 2 ^ ((Nat.log2 num : ℤ) + 1) := high
      _ = 2 ^ ((Nat.log2 num : ℤ) - Nat.log2 den + 1) * 2 ^ (Nat.log2 den : ℤ) := by
        rw [← zpow_add₀ two_ne_zero]
        ring_nf
      _ ≤ 2 ^ ((Nat.log2 num : ℤ) - Nat.log2 den + 1) * den := by gcongr

theorem scaled_lt_iff (positive : 0 < den) (e : Int) :
    (scaled num den e).1 / (scaled num den e).2 < 2 ^ 53 ↔ (num / den : ℚ) / 2 ^ e < 2 ^ 53 := by
  have den_pos : (0 : ℚ) < (scaled num den e).2 := by
    exact_mod_cast @scaled_den_pos num den positive e
  rw [← scaled_div, div_lt_iff₀ den_pos, Nat.div_lt_iff_lt_mul (scaled_den_pos positive e)]
  norm_cast

/-- The exponent leaves 53 bits to the mantissa, and fewer only where it is the least one. -/
theorem exponentFor_spec (some_ : 0 < num) (positive : 0 < den) :
    -1074 ≤ exponentFor num den ∧
      (num / den : ℚ) / 2 ^ exponentFor num den < 2 ^ 53 ∧
      (exponentFor num den ≠ -1074 → 2 ^ 52 ≤ (num / den : ℚ) / 2 ^ exponentFor num den) := by
  obtain ⟨low, high⟩ := log2_sub_bounds some_ positive
  obtain ⟨e, guess⟩ : ∃ e, max (-1074) ((Nat.log2 num : ℤ) - Nat.log2 den - 53) = e := ⟨_, rfl⟩
  have exponent : exponentFor num den =
      if (num / den : ℚ) / 2 ^ e < 2 ^ 53 then e else e + 1 := by
    simp only [exponentFor, Nat.pow_eq, guess, scaled_lt_iff positive]
  -- before the correction the mantissa has 53 or 54 bits, or the exponent is the least one
  have most : (num / den : ℚ) / 2 ^ e < 2 ^ 54 := by
    rw [div_lt_iff₀ (by positivity)]
    calc (num / den : ℚ) < 2 ^ ((Nat.log2 num : ℤ) - Nat.log2 den + 1) := high
      _ ≤ 2 ^ (54 + e) := zpow_le_zpow_right₀ one_le_two (by omega)
      _ = 2 ^ 54 * 2 ^ e := zpow_add₀ two_ne_zero 54 e
  have least : e ≠ -1074 → 2 ^ 52 ≤ (num / den : ℚ) / 2 ^ e := by
    intro above
    rw [le_div_iff₀ (by positivity)]
    calc (2 : ℚ) ^ 52 * 2 ^ e = 2 ^ (52 + e) := (zpow_add₀ two_ne_zero 52 e).symm
      _ = 2 ^ ((Nat.log2 num : ℤ) - Nat.log2 den - 1) := by congr 1; omega
      _ ≤ num / den := low.le
  have half : (num / den : ℚ) / 2 ^ (e + 1) = num / den / 2 ^ e / 2 := by
    rw [zpow_add_one₀ two_ne_zero, ← div_div]
  split at exponent
  · next fits => exact exponent ▸ ⟨by omega, fits, least⟩
  · next more =>
    rw [exponent, half]
    exact ⟨by omega, by linarith, fun _ => by linarith⟩

/-- The mantissa of a fraction, which may come out one bit too long. -/
def rounded (num den : Nat) : Nat :=
  roundDiv (scaled num den (exponentFor num den)).1 (scaled num den (exponentFor num den)).2

theorem abs_rounded_sub (positive : 0 < den) :
    |(rounded num den : ℚ) - num / den / 2 ^ exponentFor num den| ≤ 1 / 2 := by
  rw [rounded, ← scaled_div]
  exact abs_roundDiv_sub (scaled_den_pos positive _)

theorem rounded_bounds (some_ : 0 < num) (positive : 0 < den) :
    rounded num den ≤ 2 ^ 53 ∧ (exponentFor num den ≠ -1074 → 2 ^ 52 ≤ rounded num den) := by
  obtain ⟨-, most, least⟩ := exponentFor_spec some_ positive
  obtain ⟨below, above⟩ := abs_le.1 (@abs_rounded_sub num den positive)
  constructor
  · have close : (rounded num den : ℚ) < (2 ^ 53 : ℕ) + 1 := by
      push_cast
      linarith
    exact Nat.lt_succ_iff.1 (by exact_mod_cast close)
  · intro other
    have close : ((2 ^ 52 : ℕ) : ℚ) < rounded num den + 1 := by
      push_cast
      linarith [least other]
    exact Nat.lt_succ_iff.1 (by exact_mod_cast close)

end Fractions

/-! ## The range -/

/-- The first power of two that is too large for a number. -/
@[irreducible] def limit : ℚ := 2 ^ (1024 : ℤ)

/-- Half of the least number above zero. -/
@[irreducible] def halfLeast : ℚ := 2 ^ (-1075 : ℤ)

theorem lt_limit : 2 ^ 68 < limit := by
  rw [limit, ← zpow_natCast]
  exact zpow_lt_zpow_right₀ one_lt_two (by norm_num)

theorem limit_pos : 0 < limit := lt_trans (by norm_num) lt_limit

-- powers as high as these are taken apart and not computed as they stand
theorem limit_eq : limit = (2 ^ 196) ^ 5 * 2 ^ 44 := by
  rw [limit, ← pow_mul, ← pow_add, ← zpow_natCast]
  rfl

theorem ten_pow_lt_limit {n : Nat} (within : n ≤ 308) : (10 : ℚ) ^ n * (1 + 1 / 2 ^ 53) < limit := by
  have whole : (10 : ℚ) ^ n ≤ (10 ^ 59) ^ 5 * 10 ^ 13 := by
    rw [← pow_mul, ← pow_add]
    exact pow_le_pow_right₀ (by norm_num) within
  calc (10 : ℚ) ^ n * (1 + 1 / 2 ^ 53) ≤ (10 ^ 59) ^ 5 * 10 ^ 13 * (1 + 1 / 2 ^ 53) := by gcongr
    _ < limit := by
      rw [limit_eq]
      norm_num

theorem limit_lt_ten_pow {n : Nat} (beyond : 308 < n) : limit < 10 ^ n := by
  have whole : (10 ^ 59) ^ 5 * 10 ^ 14 ≤ (10 : ℚ) ^ n := by
    rw [← pow_mul, ← pow_add]
    exact pow_le_pow_right₀ (by norm_num) beyond
  refine lt_of_lt_of_le ?_ whole
  rw [limit_eq]
  norm_num

theorem halfLeast_le : halfLeast ≤ 1 / 2 ^ 53 := by
  have power : (2 : ℚ) ^ (-53 : ℤ) = 1 / 2 ^ 53 := by norm_num
  rw [halfLeast, ← power]
  exact zpow_le_zpow_right₀ one_le_two (by norm_num)

/-! ## Rounding -/

section Rounding

variable {num den : Nat}

/-- A fraction is off from what it is rounded to by at most half of the last bit. -/
theorem abs_rounded_mul_sub (some_ : 0 < num) (positive : 0 < den) :
    |rounded num den * 2 ^ exponentFor num den - (num / den : ℚ)| ≤
      max ((num / den : ℚ) / 2 ^ 53) halfLeast := by
  obtain ⟨-, -, least⟩ := exponentFor_spec some_ positive
  have near := @abs_rounded_sub num den positive
  generalize exponentFor num den = e at least near ⊢
  have unit : (0 : ℚ) < 2 ^ e := by positivity
  have error : |(rounded num den : ℚ) * 2 ^ e - num / den| ≤ 2 ^ e / 2 := by
    have scale : (rounded num den : ℚ) * 2 ^ e - num / den =
        (rounded num den - num / den / 2 ^ e) * 2 ^ e := by
      field_simp
    calc |(rounded num den : ℚ) * 2 ^ e - num / den|
        = |(rounded num den : ℚ) - num / den / 2 ^ e| * 2 ^ e := by
          rw [scale, abs_mul, abs_of_pos unit]
      _ ≤ 1 / 2 * 2 ^ e := by gcongr
      _ = 2 ^ e / 2 := by ring
  refine error.trans (le_max_iff.2 ?_)
  -- half of the last bit is small beside the number unless the exponent could sink no further
  by_cases smallest : e = -1074
  · right
    rw [halfLeast, smallest, div_eq_mul_inv, ← zpow_neg_one, ← zpow_add₀ two_ne_zero]
    norm_num
  · left
    have bits := least smallest
    rw [le_div_iff₀ unit] at bits
    rw [le_div_iff₀ (by positivity)]
    linarith

/-- The number with a mantissa and an exponent, or nothing beyond the largest number. -/
def pack (negative : Bool) (m : Nat) (e : Int) : Option Binary64 :=
  if m < Nat.pow 2 52 then some (ofParts negative 0 m)
  else if 971 < e then none
  else some (ofParts negative (e + 1075).toNat (m - Nat.pow 2 52))

/-- A mantissa that came out too long is halved. -/
theorem ofRatio_eq_pack (negative : Bool) (some_ : 0 < num) :
    ofRatio negative num den =
      if rounded num den = Nat.pow 2 53 then
        pack negative (Nat.pow 2 52) (exponentFor num den + 1)
      else pack negative (rounded num den) (exponentFor num den) := by
  rw [ofRatio, if_neg (Nat.pos_iff_ne_zero.1 some_), rounded]
  simp only
  split <;> rfl

theorem pack_spec (negative : Bool) {m : Nat} {e : Int} (bound : -1074 ≤ e) (fits : m < 2 ^ 53)
    (full : e ≠ -1074 → 2 ^ 52 ≤ m) :
    (pack negative m e = none → limit ≤ m * 2 ^ e) ∧
      ∀ x, pack negative m e = some x → x.amount = m * 2 ^ e := by
  unfold pack
  rw [Nat.pow_eq]
  split
  · next small =>
    -- fewer than 53 bits are left only with the least exponent, which is what the parts stand for
    have exponent : e = -1074 := by
      by_contra above
      exact absurd (full above) (by omega)
    refine ⟨nofun, fun x same => ?_⟩
    cases same
    rw [amount_ofParts_zero small, exponent]
  · next large =>
    have large : 2 ^ 52 ≤ m := by omega
    split
    · next beyond =>
      refine ⟨fun _ => ?_, nofun⟩
      have whole : limit = 2 ^ (52 : ℕ) * 2 ^ (972 : ℤ) := by
        rw [limit, ← zpow_natCast, ← zpow_add₀ two_ne_zero]
        rfl
      rw [whole]
      gcongr
      · exact_mod_cast large
      · exact one_le_two
      · omega
    · next within =>
      refine ⟨nofun, fun x same => ?_⟩
      obtain rfl := Option.some.inj same
      rw [amount_ofParts (by omega) (by omega) (by omega), Nat.add_sub_cancel' large]
      congr 2
      omega

/-- The result of rounding a number: the error is at most half of the last bit, and there is no result
only if it would lie beyond the largest number. -/
def Rounds (q : ℚ) (o : Option Binary64) : Prop :=
  ∃ r : ℚ, |r - q| ≤ max (q / 2 ^ 53) halfLeast ∧ (o = none → limit ≤ r) ∧
    ∀ x, o = some x → x.amount = r

/-- A fraction is rounded with an error of at most half of the last bit. -/
theorem rounds_ofRatio (negative : Bool) (num : Nat) (positive : 0 < den) :
    Rounds (num / den) (ofRatio negative num den) := by
  rcases Nat.eq_zero_or_pos num with nothing | some_
  · refine ⟨0, ?_, ?_, ?_⟩
    · simp [nothing, halfLeast]
    · rw [ofRatio, if_pos nothing]
      nofun
    · intro x same
      rw [ofRatio, if_pos nothing] at same
      obtain rfl := Option.some.inj same
      simp [amount_ofParts_zero]
  · obtain ⟨bound, -, -⟩ := exponentFor_spec some_ positive
    obtain ⟨most, full⟩ := rounded_bounds some_ positive
    refine ⟨_, abs_rounded_mul_sub some_ positive, ?_⟩
    rw [ofRatio_eq_pack negative some_, Nat.pow_eq, Nat.pow_eq]
    split
    · next long =>
      -- a mantissa of 54 bits is a power of two, so nothing is lost when it is halved
      have same : (rounded num den : ℚ) * 2 ^ exponentFor num den =
          (2 ^ 52 : ℕ) * 2 ^ (exponentFor num den + 1) := by
        rw [long, zpow_add_one₀ two_ne_zero]
        push_cast
        ring
      rw [same]
      exact pack_spec negative (by omega) (by norm_num) fun _ => le_rfl
    · next short => exact pack_spec negative bound (by omega) full

end Rounding

theorem rounds_ofNat? (n : Nat) : Rounds n (ofNat? n) := by
  have rounds := rounds_ofRatio false n Nat.one_pos
  rwa [Nat.cast_one, div_one] at rounds

theorem rounds_mul? (x y : Binary64) : Rounds (x.amount * y.amount) (x.mul? y) := by
  rw [amount_eq_ratio, amount_eq_ratio, div_mul_div_comm]
  exact_mod_cast rounds_ofRatio _ _ (Nat.mul_pos x.ratio_den_pos y.ratio_den_pos)

theorem rounds_div? (x : Binary64) {y : Binary64} (some_ : 0 < y.amount) :
    Rounds (x.amount / y.amount) (x.div? y) := by
  have num_pos : 0 < y.ratio.1 := by
    rw [amount_eq_ratio] at some_
    by_contra none_
    rw [Nat.eq_zero_of_not_pos none_] at some_
    simp at some_
  rw [amount_eq_ratio, amount_eq_ratio, div_div_div_eq]
  exact_mod_cast rounds_ofRatio _ _ (Nat.mul_pos x.ratio_den_pos num_pos)

namespace Rounds

variable {q : ℚ} {o : Option Binary64}

/-- From one on, the error is small beside the number. -/
theorem exists_of_one_le (rounds : Rounds q o) (one : 1 ≤ q)
    (within : q * (1 + 1 / 2 ^ 53) < limit) :
    ∃ x, o = some x ∧ q * (1 - 1 / 2 ^ 53) ≤ x.amount ∧ x.amount ≤ q * (1 + 1 / 2 ^ 53) := by
  obtain ⟨r, near, beyond, value⟩ := rounds
  have least : halfLeast ≤ q / 2 ^ 53 := halfLeast_le.trans (by gcongr)
  rw [max_eq_left least, abs_le] at near
  cases o with
  | none => linarith [beyond rfl]
  | some x =>
    refine ⟨x, rfl, ?_⟩
    rw [value x rfl]
    constructor <;> linarith

/-- A number that is not too large can be rounded, and at most doubles up to one. -/
theorem exists_of_le (rounds : Rounds q o) (start : 0 ≤ q) (small : q ≤ 2 ^ 66) :
    ∃ x, o = some x ∧ x.amount ≤ 2 * q + 1 := by
  obtain ⟨r, near, beyond, value⟩ := rounds
  have error : max (q / 2 ^ 53) halfLeast ≤ q + 1 :=
    max_le (by linarith) (by linarith [halfLeast_le])
  have most := (abs_le.1 (near.trans error)).2
  cases o with
  | none => linarith [beyond rfl, lt_limit]
  | some x => exact ⟨x, rfl, by linarith [value x rfl]⟩

end Rounds

end PluginKit.Binary64
