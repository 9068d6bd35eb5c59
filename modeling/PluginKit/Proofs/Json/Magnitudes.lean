import PluginKit.Proofs.Binary64
import PluginKit.Proofs.Json.Numerals

/-!
# The range of numbers in texts

A numeral of a floating point number is read as the number that its digits give, scaled by a power of
ten. Three roundings lie on the way: that of the digits, that of the power and that of the product. So a
numeral is within the range if it stays below the end of the range by three and a half units of the last
bit, and a numeral below one always is.

## Main statements

- `exists_magnitude`: digits and a power of ten give a number.
- `Numeral.exists_value`: a numeral has a value.
-/

namespace PluginKit.Json.Reader

open Binary64

/-! ## Powers of ten -/

theorem tenTo_bounds {n : Nat} (within : n ≤ 308) :
    (10 ^ n : ℚ) * (1 - 1 / 2 ^ 53) ≤ (tenTo n).amount ∧
      (tenTo n).amount ≤ 10 ^ n * (1 + 1 / 2 ^ 53) := by
  have rounds : Rounds (10 ^ n) (Binary64.ofNat? (Nat.pow 10 n)) := by
    exact_mod_cast rounds_ofNat? (Nat.pow 10 n)
  obtain ⟨x, same, bounds⟩ :=
    rounds.exists_of_one_le (one_le_pow₀ (by norm_num)) (ten_pow_lt_limit within)
  rw [tenTo, same]
  exact bounds

theorem le_tenTo {n : Nat} (some_ : n ≠ 0) (within : n ≤ 308) : 9 ≤ (tenTo n).amount := by
  have ten : (10 : ℚ) ≤ 10 ^ n := le_self_pow₀ (by norm_num) some_
  calc (9 : ℚ) ≤ 10 * (1 - 1 / 2 ^ 53) := by norm_num
    _ ≤ 10 ^ n * (1 - 1 / 2 ^ 53) := by gcongr
    _ ≤ (tenTo n).amount := (tenTo_bounds within).1

/-! ## Scaling -/

-- the powers of ten are known by their bounds; they are too long to be computed on the way
attribute [local irreducible] tenTo

theorem scaleTen_succ (fuel : Nat) (f : Binary64) (e : Int) :
    scaleTen (fuel + 1) f e =
      if e.natAbs ≤ 308 then
        if 0 ≤ e then f.mul? (tenTo e.natAbs) else f.div? (tenTo e.natAbs)
      else if f.isZero then some f
      else if 0 ≤ e then none
      else
        match f.div? (tenTo 308) with
        | some f => scaleTen fuel f (e + 308)
        | none => none := rfl

/-- Dividing by powers of ten never leaves the range. -/
theorem exists_scaleTen_of_neg (fuel : Nat) {f : Binary64} {e : Int} (below : e < 0)
    (small : f.amount ≤ 2 ^ 66) : ∃ x, scaleTen fuel f e = some x := by
  induction fuel generalizing f e with
  | zero => exact ⟨f, rfl⟩
  | succ fuel ih =>
    -- a divisor is nine at least, so what the rounding adds does not take the quotient past the bound
    have quotient {n : Nat} (some_ : n ≠ 0) (within : n ≤ 308) :
        ∃ x, f.div? (tenTo n) = some x ∧ x.amount ≤ 2 ^ 66 := by
      have start := f.amount_nonneg
      have nine := le_tenTo some_ within
      have less : f.amount / (tenTo n).amount ≤ f.amount / 9 := by gcongr
      obtain ⟨x, same, most⟩ := (rounds_div? f (by linarith)).exists_of_le
        (div_nonneg start (tenTo n).amount_nonneg) (by linarith)
      exact ⟨x, same, by linarith⟩
    rw [scaleTen_succ]
    split
    · next within =>
      obtain ⟨x, same, -⟩ := quotient (by omega) within
      exact ⟨x, by rw [if_neg (by omega), same]⟩
    · split
      · exact ⟨f, rfl⟩
      · obtain ⟨x, same, most⟩ := quotient (n := 308) (by decide) le_rfl
        rw [if_neg (by omega), same]
        exact ih (by omega) most

theorem exists_scaleTen_of_zero (e : Int) : ∃ x, scaleTen 8 (ofParts false 0 0) e = some x := by
  have nothing : (ofParts false 0 0).amount = 0 := by
    rw [amount_ofParts_zero (by decide), Nat.cast_zero, zero_mul]
  rcases lt_or_ge e 0 with below | above
  · exact exists_scaleTen_of_neg 8 below (nothing.trans_le (by norm_num))
  · have zero_ : (ofParts false 0 0).isZero = true := rfl
    rw [scaleTen_succ, if_pos above, if_pos zero_]
    split
    · have rounds := rounds_mul? (ofParts false 0 0) (tenTo e.natAbs)
      rw [nothing, zero_mul] at rounds
      obtain ⟨x, same, -⟩ := rounds.exists_of_le le_rfl (by norm_num)
      exact ⟨x, same⟩
    · exact ⟨_, rfl⟩

/-- A product within the range leaves room for the three roundings that it takes. -/
theorem exists_scaleTen {f : Binary64} {m : ℚ} {e : Nat} (one : 1 ≤ m)
    (near : f.amount ≤ m * (1 + 1 / 2 ^ 53)) (within : m * 10 ^ e ≤ limit * (1 - 7 / 2 ^ 54)) :
    ∃ x, scaleTen 8 f e = some x := by
  have least : e ≤ 308 := by
    by_contra more
    have scaled : (10 : ℚ) ^ e ≤ m * 10 ^ e := le_mul_of_one_le_left (by positivity) one
    have short : limit * (1 - 7 / 2 ^ 54) ≤ limit := by
      linarith [limit_pos]
    linarith [limit_lt_ten_pow (not_le.1 more)]
  have start := mul_nonneg f.amount_nonneg (tenTo e).amount_nonneg
  -- the digits and the power have been rounded once each, and the product is yet to be rounded
  have product : f.amount * (tenTo e).amount ≤
      limit * (1 - 7 / 2 ^ 54) * (1 + 1 / 2 ^ 53) ^ 2 := by
    calc f.amount * (tenTo e).amount
        ≤ m * (1 + 1 / 2 ^ 53) * (10 ^ e * (1 + 1 / 2 ^ 53)) :=
          mul_le_mul near (tenTo_bounds least).2 (tenTo e).amount_nonneg (by positivity)
      _ = m * 10 ^ e * (1 + 1 / 2 ^ 53) ^ 2 := by ring
      _ ≤ limit * (1 - 7 / 2 ^ 54) * (1 + 1 / 2 ^ 53) ^ 2 := by gcongr
  have rounds := rounds_mul? f (tenTo e)
  rw [scaleTen_succ, if_pos (by simpa using least), if_pos (by omega), Int.natAbs_natCast]
  rcases le_total 1 (f.amount * (tenTo e).amount) with large | small
  · have room : f.amount * (tenTo e).amount * (1 + 1 / 2 ^ 53) < limit := by
      have rest : ((1 : ℚ) - 7 / 2 ^ 54) * (1 + 1 / 2 ^ 53) ^ 3 < 1 := by norm_num
      calc f.amount * (tenTo e).amount * (1 + 1 / 2 ^ 53)
          ≤ limit * (1 - 7 / 2 ^ 54) * (1 + 1 / 2 ^ 53) ^ 2 * (1 + 1 / 2 ^ 53) := by gcongr
        _ = limit * ((1 - 7 / 2 ^ 54) * (1 + 1 / 2 ^ 53) ^ 3) := by ring
        _ < limit := mul_lt_of_lt_one_right limit_pos rest
    obtain ⟨x, same, -⟩ := rounds.exists_of_one_le large room
    exact ⟨x, same⟩
  · obtain ⟨x, same, -⟩ := rounds.exists_of_le start (small.trans (by norm_num))
    exact ⟨x, same⟩

/-- Digits and a power of ten give a number if they stay below the largest number by a little. -/
theorem exists_magnitude {m : Nat} {e : Int} (fits : m < 2 ^ 64)
    (within : (m : ℚ) * 10 ^ e ≤ limit * (1 - 7 / 2 ^ 54)) : ∃ x, magnitude m e = some x := by
  rcases Nat.eq_zero_or_pos m with rfl | some_
  · have same : ofNat? 0 = some (ofParts false 0 0) := rfl
    rw [magnitude, same]
    exact exists_scaleTen_of_zero e
  have one : (1 : ℚ) ≤ m := by exact_mod_cast some_
  have most : (m : ℚ) ≤ 2 ^ 64 := by exact_mod_cast fits.le
  obtain ⟨f, same, -, near⟩ :=
    (rounds_ofNat? m).exists_of_one_le one (by linarith [lt_limit])
  rw [magnitude, same]
  rcases lt_or_ge e 0 with below | above
  · exact exists_scaleTen_of_neg 8 below (by linarith)
  · obtain ⟨k, rfl⟩ := Int.eq_ofNat_of_zero_le above
    exact exists_scaleTen one near (by exact_mod_cast within)

/-! ## Numerals -/

/-- The digits after the point that fit are those of a number that is not larger. -/
theorem fractional_spec {ds : List Char} {acc m n : Nat} (fits : acc < 2 ^ 64)
    (h : fractional acc ds = (m, n)) :
    m < 2 ^ 64 ∧ n ≤ ds.length ∧ m * 10 ^ (ds.length - n) ≤ Nat.ofDigitChars 10 ds acc := by
  induction ds generalizing acc n with
  | nil =>
    cases h
    simpa using fits
  | cons c cs ih =>
    have same : acc * 10 + digit c = 10 * acc + (c.toNat - '0'.toNat) := by
      rw [digit, Nat.mul_comm]
    rw [fractional, same, Nat.pow_eq] at h
    rw [Nat.ofDigitChars_cons]
    split at h
    · next more =>
      rcases hk : fractional (10 * acc + (c.toNat - '0'.toNat)) cs with ⟨k, l⟩
      rw [hk] at h
      cases h
      obtain ⟨small, taken, most⟩ := ih more hk
      rw [List.length_cons, Nat.add_sub_add_right]
      exact ⟨small, by omega, most⟩
    -- no digit is taken from the first one on that does not fit, and the number only gets smaller
    · cases h
      refine ⟨fits, Nat.zero_le _, ?_⟩
      rw [Nat.ofDigitChars_eq_ofDigitChars_zero, Nat.sub_zero, List.length_cons, Nat.pow_succ]
      calc m * (10 ^ cs.length * 10) = 10 ^ cs.length * (10 * m) := by ring
        _ ≤ 10 ^ cs.length * (10 * m + (c.toNat - '0'.toNat)) :=
          Nat.mul_le_mul_left _ (Nat.le_add_right _ _)
        _ ≤ _ := Nat.le_add_right _ _

theorem exponentValue?_eq (ds : List Char) :
    exponentValue? ds =
      if Nat.ofDigitChars 10 ds 0 < 2 ^ 31 then some (Nat.ofDigitChars 10 ds 0) else none := by
  have same (acc : Nat) : ds.foldl (fun a c => a * 10 + digit c) acc = Nat.ofDigitChars 10 ds acc := by
    induction ds generalizing acc with
    | nil => rfl
    | cons c cs ih =>
      rw [List.foldl_cons, ih, Nat.ofDigitChars_cons, digit, Nat.mul_comm acc]
  simp only [exponentValue?, same, Nat.pow_eq]

/-- The exponent that a numeral gives. -/
def Numeral.power (n : Numeral) : Int :=
  match n.exponent with
  | none => 0
  | some (negative, ds) =>
    if negative then -(Nat.ofDigitChars 10 ds 0 : Int) else Nat.ofDigitChars 10 ds 0

/-- The magnitude that a numeral gives. -/
def Numeral.amount (n : Numeral) : ℚ :=
  Nat.ofDigitChars 10 (n.whole ++ n.fraction.getD []) 0 *
    10 ^ (n.power - (n.fraction.getD []).length)

/-- A numeral of a floating point number has a value if its magnitude stays a little below the largest
number, whatever digits of it are dropped. -/
theorem Numeral.exists_value {n : Numeral} (float : n.fraction.isSome ∨ n.exponent.isSome)
    (short : Nat.ofDigitChars 10 n.whole 0 < 2 ^ 64) (small : n.power < 2 ^ 31)
    (within : n.amount ≤ limit * (1 - 7 / 2 ^ 54)) : ∃ v, n.value = some v := by
  rcases hm : fractional (Nat.ofDigitChars 10 n.whole 0) (n.fraction.getD []) with ⟨m, taken⟩
  obtain ⟨fits, some_, most⟩ := fractional_spec short hm
  rw [← Nat.ofDigitChars_append] at most
  -- digits that were dropped shift the power by as many places, and the magnitude does not grow
  have scaled : (m : ℚ) * 10 ^ (n.power - taken) ≤ limit * (1 - 7 / 2 ^ 54) := by
    refine le_trans ?_ within
    have cast : (m * 10 ^ ((n.fraction.getD []).length - taken) : ℚ) ≤
        Nat.ofDigitChars 10 (n.whole ++ n.fraction.getD []) 0 := by exact_mod_cast most
    have shift : (10 : ℚ) ^ (n.power - taken) =
        10 ^ ((n.fraction.getD []).length - taken) *
          10 ^ (n.power - (n.fraction.getD []).length) := by
      rw [← zpow_natCast, ← zpow_add₀ (by norm_num), Nat.cast_sub some_]
      congr 1
      ring
    rw [Numeral.amount, shift, ← mul_assoc]
    gcongr
  have reads {p : Int} (power : n.power - taken = p) : ∃ x, magnitude m p = some x :=
    exists_magnitude fits (power ▸ scaled)
  have pointed : ¬ (n.fraction.isNone = true ∧ n.exponent.isNone = true ∧ True) := by
    simp only [Option.isNone_iff_eq_none]
    rintro ⟨whole, plain, -⟩
    simp [whole, plain] at float
  simp only [value, significand_of_lt short]
  rw [if_neg pointed]
  simp only [hm]
  unfold power at reads small
  split
  · next plain =>
    rw [plain] at reads
    obtain ⟨x, same⟩ := reads rfl
    rw [Nat.cast_zero, same]
    exact ⟨_, rfl⟩
  · next negative ds marked =>
    rw [marked] at reads small
    rw [exponentValue?_eq]
    cases negative with
    | true =>
      split
      · next e known =>
        obtain ⟨x, same⟩ := reads (p := ((0 : Nat) : Int) - taken - e) (by
          split at known
          · cases known
            simp
            ring
          · cases known)
        rw [if_pos rfl, same]
        exact ⟨_, rfl⟩
      · simp
    | false =>
      simp only [Bool.false_eq_true, if_false] at small
      rw [if_pos (by exact_mod_cast small)]
      obtain ⟨x, same⟩ := reads (p := ((0 : Nat) : Int) - taken + Nat.ofDigitChars 10 ds 0) (by
        simp
        ring)
      simp only [Bool.false_eq_true, if_false, same]
      exact ⟨_, rfl⟩

end PluginKit.Json.Reader
