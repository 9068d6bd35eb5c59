import PluginKit.Decimal
import PluginKit.Proofs.Binary64

/-!
# Shortest decimals

The shortest decimal of a number comes from a grid, where one of the neighbours of the number rounds to
it. So it lies within half a unit of the number. It has digits, for the interval of the reals that round
to a number other than zero does not reach down to zero.

## Main statements

- `Binary64.shortest_le`: the shortest decimal lies at most half a unit above the number.
- `Binary64.shortest_proper`: the shortest decimal has digits, unless it is a plain zero.
-/

namespace PluginKit

/-! ## Decimals -/

theorem tenPow_pos (p : Int) : 0 < (tenPow p).1 ∧ 0 < (tenPow p).2 := by
  have positive (n : Nat) : 0 < Nat.pow 10 n := Nat.pow_pos (by decide)
  unfold tenPow
  split
  · exact ⟨Nat.one_pos, positive _⟩
  · exact ⟨positive _, Nat.one_pos⟩

theorem tenPow_div (p : Int) : ((tenPow p).1 / (tenPow p).2 : ℚ) = 10 ^ p := by
  unfold tenPow
  split
  · obtain ⟨k, power⟩ := Int.eq_ofNat_of_zero_le (show 0 ≤ -p by omega)
    have same : p = -(k : ℤ) := by omega
    simp [same]
  · obtain ⟨k, rfl⟩ := Int.eq_ofNat_of_zero_le (show 0 ≤ p by omega)
    simp

namespace Decimal

variable {d : Decimal}

/-- The number that a decimal stands for. -/
def amount (d : Decimal) : ℚ := d.digits * 10 ^ d.power

theorem amount_strip (fuel : Nat) (d : Decimal) : (d.strip fuel).amount = d.amount := by
  induction fuel generalizing d with
  | zero => rfl
  | succ fuel ih =>
    rw [strip]
    split
    · next trailing =>
      obtain ⟨k, digits⟩ : ∃ k, d.digits = 10 * k := Nat.dvd_of_mod_eq_zero trailing.2
      rw [ih, amount, amount, digits, Nat.mul_div_cancel_left k (by decide),
        zpow_add_one₀ (by decide)]
      push_cast
      ring
    · rfl

/-- Zeros at the end are dropped, but never all digits. -/
theorem digits_strip_pos (fuel : Nat) (some_ : 0 < d.digits) : 0 < (d.strip fuel).digits := by
  induction fuel generalizing d with
  | zero => exact some_
  | succ fuel ih =>
    rw [strip]
    split
    · next trailing => exact ih (by simp only; omega)
    · exact some_

theorem strip_of_zero (fuel : Nat) (none_ : d.digits = 0) : d.strip fuel = d := by
  cases fuel with
  | zero => rfl
  | succ fuel => rw [strip, if_neg fun trailing => trailing.1 none_]

end Decimal

/-! ## Grids -/

namespace Basin

variable {b : Basin} {d : Decimal} {p : Int}

/-- A decimal that is not above the interval, and has digits unless it is a plain zero. -/
structure Reaches (b : Basin) (d : Decimal) : Prop where
  value : d.amount * b.den ≤ b.high
  proper : 0 < d.digits ∨ d.power = 0

theorem reaches_of_holds (above : 0 < b.low) (held : b.holds d = true) : b.Reaches d := by
  obtain ⟨num_pos, den_pos⟩ := tenPow_pos d.power
  have bounds : b.low * (tenPow d.power).2 ≤ d.digits * (tenPow d.power).1 * b.den ∧
      d.digits * (tenPow d.power).1 * b.den ≤ b.high * (tenPow d.power).2 := by
    unfold holds at held
    simp only at held
    split at held
    · simpa using held
    · have strict := by simpa using held
      exact ⟨strict.1.le, strict.2.le⟩
  constructor
  · have den_pos' : (0 : ℚ) < (tenPow d.power).2 := by exact_mod_cast den_pos
    have cast : (d.digits * (tenPow d.power).1 * b.den : ℚ) ≤ b.high * (tenPow d.power).2 := by
      exact_mod_cast bounds.2
    rw [Decimal.amount, ← tenPow_div, ← mul_div_assoc, div_mul_eq_mul_div, div_le_iff₀ den_pos']
    exact cast
  · left
    -- the interval begins above zero, so a decimal without digits would lie outside
    by_contra none_
    rw [Nat.eq_zero_of_not_pos none_] at bounds
    have nothing := Nat.mul_pos above den_pos
    omega

theorem holds_of_onGrid (found : b.onGrid p = some d) : b.holds d = true := by
  unfold onGrid at found
  simp only at found
  split at found
  · next below above =>
    split at found
    · cases found
      exact below
    · split at found
      · cases found
        exact above
      · split at found
        · cases found
          exact below
        · cases found
          exact above
  · next below _ =>
    cases found
    exact below
  · next _ above =>
    cases found
    exact above
  · cases found

theorem reaches_search (above : 0 < b.low) (ordered : b.mid ≤ b.high)
    (fuel : Nat) (p : Int) : b.Reaches (b.search fuel p) := by
  induction fuel generalizing p with
  | zero =>
    rw [search]
    cases found : b.onGrid p with
    | some d => exact reaches_of_holds above (holds_of_onGrid found)
    | none =>
      -- the last resort is the whole part of the number, which does not exceed it
      refine ⟨?_, .inr rfl⟩
      have whole : b.mid / b.den * b.den ≤ b.high := (Nat.div_mul_le_self _ _).trans ordered
      simp only [Option.getD_none, Decimal.amount, zpow_zero, mul_one]
      exact_mod_cast whole
  | succ fuel ih =>
    rw [search]
    cases found : b.onGrid p with
    | some d => exact reaches_of_holds above (holds_of_onGrid found)
    | none => exact ih (p - 1)

end Basin

/-! ## The interval of a number -/

namespace Binary64

variable {x : Binary64}

theorem mantissa_pos (some_ : x.isZero = false) : 0 < x.mantissa := by
  unfold isZero at some_
  unfold mantissa
  split
  · next least =>
    rw [least] at some_
    simpa [Nat.pos_iff_ne_zero] using some_
  · rw [Nat.pow_eq]
    omega

/-- The interval of a number ends half a unit above its mantissa. -/
theorem high_basin (x : Binary64) :
    ((Basin.of x).high / (Basin.of x).den : ℚ) = (x.mantissa + 1 / 2) * 2 ^ x.exponent := by
  unfold Basin.of
  simp only
  split
  · next below =>
    obtain ⟨k, power⟩ := Int.eq_ofNat_of_zero_le (show 0 ≤ 2 - x.exponent by omega)
    have exponent : x.exponent = -(k : ℤ) + 2 := by omega
    have same : (2 - (-(k : ℤ) + 2)).toNat = k := by omega
    rw [exponent, same, zpow_add₀ two_ne_zero]
    simp
    field_simp
    ring
  · obtain ⟨k, power⟩ := Int.eq_ofNat_of_zero_le (show 0 ≤ x.exponent - 2 by omega)
    have exponent : x.exponent = (k : ℤ) + 2 := by omega
    have same : ((k : ℤ) + 2 - 2).toNat = k := by omega
    rw [exponent, same, zpow_add₀ two_ne_zero]
    simp
    ring

theorem basin_bounds (some_ : x.isZero = false) :
    0 < (Basin.of x).low ∧ (Basin.of x).mid ≤ (Basin.of x).high ∧ 0 < (Basin.of x).den := by
  have positive := mantissa_pos some_
  have power (k : Nat) : 0 < Nat.pow 2 k := Nat.two_pow_pos k
  have least : 0 < if x.mantissa = Nat.pow 2 52 ∧ 1 < x.biased then 4 * x.mantissa - 1
      else 4 * x.mantissa - 2 := by
    split <;> omega
  unfold Basin.of
  simp only
  split
  · exact ⟨least, by omega, power _⟩
  · exact ⟨Nat.mul_pos least (power _), Nat.mul_le_mul_right _ (by omega), Nat.one_pos⟩

/-- The shortest decimal lies at most half a unit above the number. -/
theorem shortest_le (some_ : x.isZero = false) :
    x.shortest.amount ≤ (x.mantissa + 1 / 2) * 2 ^ x.exponent := by
  obtain ⟨above, ordered, den_pos⟩ := basin_bounds some_
  have reaches := Basin.reaches_search above ordered 18 ((Basin.of x).leading 640 309)
  have positive : (0 : ℚ) < (Basin.of x).den := by exact_mod_cast den_pos
  rw [shortest, Decimal.amount_strip, ← high_basin, le_div_iff₀ positive]
  exact reaches.value

/-- The shortest decimal has digits, unless it is a plain zero. -/
theorem shortest_proper (some_ : x.isZero = false) :
    0 < x.shortest.digits ∨ x.shortest.digits = 0 ∧ x.shortest.power = 0 := by
  obtain ⟨above, ordered, -⟩ := basin_bounds some_
  have reaches := Basin.reaches_search above ordered 18 ((Basin.of x).leading 640 309)
  rcases Nat.eq_zero_or_pos ((Basin.of x).search 18 ((Basin.of x).leading 640 309)).digits with
    none_ | digits
  · right
    rw [shortest, Decimal.strip_of_zero 20 none_]
    exact ⟨none_, reaches.proper.resolve_left (by omega)⟩
  · exact .inl (Decimal.digits_strip_pos 20 digits)

end Binary64

end PluginKit
