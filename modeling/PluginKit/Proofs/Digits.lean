import Mathlib.Data.List.Basic

/-!
# Digits of numbers

The digits that a number is written with, as numbers below the base. The characters, the value and the
first digit of a numeral are told by them.

## Main statements

- `exists_spelt`: every number is written with digits, and only zero with a zero in front.
- `exists_digitChar_of_mem_toDigits`: a numeral is made of digits.
-/

namespace PluginKit

variable {base : Nat} {ds : List Nat}

/-- The digits that a number is written with. Only zero is written with a zero in front. -/
structure Spelt (base n : Nat) (ds : List Nat) : Prop where
  written : Nat.toDigits base n = ds.map Nat.digitChar
  below : ∀ d ∈ ds, d < base
  value : ds.foldl (fun a d => a * base + d) 0 = n
  lead : ds.head? = some 0 → ds.length = 1

theorem Spelt.ne_nil {n : Nat} (spelt : Spelt base n ds) : ds ≠ [] := by
  rintro rfl
  exact Nat.toDigits_ne_nil spelt.written

/-- Every number is written with digits. -/
theorem exists_spelt (two : 1 < base) (n : Nat) : ∃ ds, Spelt base n ds := by
  induction n using Nat.strongRecOn with
  | _ n ih =>
    by_cases small : n < base
    · refine ⟨[n], ?_, ?_, ?_, fun _ => rfl⟩
      · rw [Nat.toDigits_of_lt_base small]
        rfl
      · simpa using small
      · simp
    -- a longer numeral is that of the quotient and one digit more
    · have shorter : n / base < n := Nat.div_lt_self (by omega) two
      obtain ⟨ds, spelt⟩ := ih _ shorter
      refine ⟨ds ++ [n % base], ?_, ?_, ?_, ?_⟩
      · rw [Nat.toDigits_of_base_le two (Nat.le_of_not_lt small), spelt.written, List.map_append]
        rfl
      · intro d member
        rcases List.mem_append.1 member with before | last
        · exact spelt.below d before
        · rw [List.mem_singleton.1 last]
          exact Nat.mod_lt n (by omega)
      · rw [List.foldl_append, spelt.value]
        exact Nat.div_add_mod' n base
      · intro lead
        rw [List.head?_append_of_ne_nil _ spelt.ne_nil] at lead
        -- the quotient would be zero, and the number a digit
        have alone := spelt.lead lead
        obtain ⟨d, rfl⟩ := List.length_eq_one_iff.1 alone
        have zero : n / base = 0 := by
          have value := spelt.value
          cases lead
          simpa using value.symm
        have := (Nat.div_eq_zero_iff_lt (by omega)).1 zero
        omega

/-- A numeral is made of digits. -/
theorem exists_digitChar_of_mem_toDigits {n : Nat} {c : Char} (two : 1 < base)
    (member : c ∈ Nat.toDigits base n) : ∃ d < base, c = d.digitChar := by
  obtain ⟨ds, spelt⟩ := exists_spelt two n
  rw [spelt.written] at member
  obtain ⟨d, here, rfl⟩ := List.mem_map.1 member
  exact ⟨d, spelt.below d here, rfl⟩

end PluginKit
