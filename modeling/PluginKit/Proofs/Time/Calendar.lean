import Mathlib.Tactic.IntervalCases
import PluginKit.Timestamp

/-!
# Days and dates

Every number of days has one date, which the calendar has and which is that number of days after
day zero. Years are counted from the first of March, four hundred years at a time: the day that leap
years add is then the last of its year, of its century and of its four hundred years.

## Main statements

- `Date.toDays_ofDays`: the date of a number of days has that number.
- `Date.isValid_ofDays`: the calendar has the date of every number of days.
- `daysInMonth_le`: no month has more than 31 days.
-/

namespace PluginKit.Timestamp

/-! ## Lengths of years and months -/

/-- No month has more than 31 days. -/
theorem daysInMonth_le (year : Int) (month : Nat) : daysInMonth year month ≤ 31 := by
  unfold daysInMonth
  split
  · split <;> decide
  all_goals decide

namespace Date

/-- The days before the first of March of a year, from the first of March of the year zero. -/
def yearStart (y : Int) : Int := 365 * y + y / 4 - y / 100 + y / 400

/-- A year that begins in March is as long as the February that ends it makes it. -/
theorem yearStart_next (y : Int) :
    yearStart (y + 1) = yearStart y + if isLeap (y + 1) then 366 else 365 := by
  unfold yearStart isLeap
  simp only [beq_iff_eq, Bool.and_eq_true, Bool.or_eq_true, bne_iff_ne, ne_eq]
  split <;> omega

/-- Four hundred years have the same number of days wherever they begin. -/
theorem yearStart_era (y era : Int) : yearStart (y + era * 400) = yearStart y + era * 146097 := by
  unfold yearStart
  omega

/-- Within a century every fourth year has a day more. -/
theorem yearStart_century (c : Int) {u : Int} (lo : 0 ≤ u) (hi : u < 100) :
    yearStart (100 * c + u) = 36524 * c + c / 4 + 365 * u + u / 4 := by
  have century : (100 * c + u) / 100 = c := by omega
  have quarter : (100 * c + u) / 4 = 25 * c + u / 4 := by omega
  have era : (100 * c + u) / 400 = c / 4 := by omega
  rw [yearStart, century, quarter, era]
  omega

/-! ## The year of a day -/

/-- The year, of four hundred, that a day of these years lies in. -/
def yearOfEra (d : Int) : Int := (d - d / 1460 + d / 36524 - d / 146096) / 365

/-- The year of a day of a century: `k` counts the leap days, which the rest leaves out. -/
theorem year_of_century {d k u c : Int} (lo : 0 ≤ d) (hi : d ≤ 36524) (c0 : 0 ≤ c) (c3 : c ≤ 3)
    (hk : k = (d + 24 * c) / 1460) (hu : u = (d - k) / 365) :
    365 * u + u / 4 ≤ d ∧ d < 365 * (u + 1) + (u + 1) / 4 := by
  have many : u / 4 ≤ k := by omega
  have few : k ≤ u / 4 + 1 := by omega
  constructor
  · omega
  · -- the count runs ahead of the year only in the last year of four
    rcases Int.lt_or_le (u / 4) k with ahead | level
    · have last : u % 4 = 3 := by omega
      omega
    · omega

/-- The year of a day of four hundred years begins at that day or before, the next year after it. -/
theorem year_of_era {d : Int} (lo : 0 ≤ d) (hi : d < 146097) :
    0 ≤ yearOfEra d ∧ yearOfEra d < 400 ∧ yearStart (yearOfEra d) ≤ d ∧
      d < yearStart (yearOfEra d + 1) := by
  obtain ⟨y, eq⟩ : ∃ y, y = yearOfEra d := ⟨_, rfl⟩
  rw [← eq]
  rw [yearOfEra] at eq
  -- the century first, then the year in it
  obtain ⟨c, hc⟩ : ∃ c, c = d / 36524 - d / 146096 := ⟨_, rfl⟩
  have c0 : 0 ≤ c := by omega
  have c3 : c ≤ 3 := by omega
  have lower : 0 ≤ d - 36524 * c := by omega
  have upper : d - 36524 * c ≤ 36524 := by omega
  have leap : d - 36524 * c = 36524 → c = 3 := by omega
  obtain ⟨u, rfl⟩ : ∃ u, y = 100 * c + u := ⟨y - 100 * c, by omega⟩
  obtain ⟨after, before⟩ := year_of_century (k := d / 1460 - 25 * c) (u := u) lower upper c0 c3
    (by omega) (by omega)
  have u0 : 0 ≤ u := by omega
  have u99 : u < 100 := by omega
  clear eq hc
  refine ⟨by omega, by omega, ?_, ?_⟩
  · rw [yearStart_century c u0 u99]
    omega
  · rcases Int.lt_or_le u 99 with within | final
    · rw [Int.add_assoc, yearStart_century c (by omega) (by omega)]
      omega
    · have next : 100 * c + u + 1 = 100 * (c + 1) + 0 := by omega
      rw [next, yearStart_century (c + 1) (by omega) (by omega)]
      omega

/-! ## The day of a year -/

/-- The date a number of days after the first of March of a year. -/
def ofMarch (y d : Int) : Date :=
  let m := (5 * d + 2) / 153
  let month := if m < 10 then m + 3 else m - 9
  { year := y + (if month ≤ 2 then 1 else 0)
    month := month.toNat
    day := (d - (153 * m + 2) / 5 + 1).toNat }

/-- The day after the first of March that a date stands for. -/
theorem toDays_ofMarch (y : Int) {d : Int} (lo : 0 ≤ d) (hi : d ≤ 365) :
    (ofMarch y d).toDays = yearStart y + d - 719468 := by
  simp only [ofMarch, toDays, yearStart]
  split <;> omega

/-- The calendar has every day of a year that begins in March. -/
theorem isValid_ofMarch {y d : Int} (lo : 0 ≤ d) (hi : d < yearStart (y + 1) - yearStart y) :
    (ofMarch y d).isValid = true := by
  rw [yearStart_next] at hi
  have first : 0 ≤ (5 * d + 2) / 153 := by omega
  have last : (5 * d + 2) / 153 ≤ 11 := by split at hi <;> omega
  obtain ⟨m, hm⟩ : ∃ m, m = (5 * d + 2) / 153 := ⟨_, rfl⟩
  simp only [ofMarch, isValid, ← hm, Bool.and_eq_true, decide_eq_true_eq]
  rw [← hm] at first last
  rcases Int.lt_or_le m 11 with other | february
  · interval_cases m <;> simp [daysInMonth] <;> omega
  · -- only February asks whether the year is a leap year
    obtain rfl : m = 11 := by omega
    simp only [Int.reduceLT, ↓reduceIte, Int.reduceSub, Int.reduceToNat, Nat.one_le_ofNat,
      Nat.reduceLeDiff, and_self, Int.reduceMul, Int.reduceAdd, Int.reduceDiv, true_and, daysInMonth,
      Std.le_refl, Int.toNat_le, Nat.cast_ite, Nat.cast_ofNat]
    split at hi
    · next leap =>
      rw [if_pos leap]
      omega
    · next common =>
      rw [if_neg common]
      omega

/-- Every number of days is counted from the first of March of one year. -/
theorem ofDays_eq_ofMarch (n : Int) : ∃ y d : Int, 0 ≤ d ∧ n + 719468 = yearStart y + d ∧
    n + 719468 < yearStart (y + 1) ∧ ofDays n = ofMarch y d := by
  obtain ⟨era, hera⟩ : ∃ era, era = (n + 719468) / 146097 := ⟨_, rfl⟩
  obtain ⟨e, he⟩ : ∃ e, e = (n + 719468) % 146097 := ⟨_, rfl⟩
  obtain ⟨y0, y400, start, next⟩ := year_of_era (d := e) (by omega) (by omega)
  refine ⟨yearOfEra e + era * 400, e - yearStart (yearOfEra e), by omega, ?_, ?_, ?_⟩
  · rw [yearStart_era]
    omega
  · rw [Int.add_right_comm, yearStart_era]
    omega
  · have early : yearStart (yearOfEra e) =
        365 * yearOfEra e + yearOfEra e / 4 - yearOfEra e / 100 := by
      rw [yearStart]
      omega
    rw [early, hera, he]
    rfl

/-! ## Days to dates and back -/

/-- The date of a number of days has that number. -/
theorem toDays_ofDays (n : Int) : (ofDays n).toDays = n := by
  obtain ⟨y, d, lo, sum, hi, eq⟩ := ofDays_eq_ofMarch n
  have short : d ≤ 365 := by
    rw [yearStart_next] at hi
    split at hi <;> omega
  rw [eq, toDays_ofMarch y lo short]
  omega

/-- The calendar has the date of every number of days. -/
theorem isValid_ofDays (n : Int) : (ofDays n).isValid = true := by
  obtain ⟨y, d, lo, sum, hi, eq⟩ := ofDays_eq_ofMarch n
  rw [eq]
  exact isValid_ofMarch lo (by omega)

/-- The numbers of a valid month and day have two digits. -/
theorem month_lt_and_day_lt {d : Date} (h : d.isValid = true) : d.month < 100 ∧ d.day < 100 := by
  simp only [isValid, Bool.and_eq_true, decide_eq_true_eq] at h
  have longest := daysInMonth_le d.year d.month
  omega

end Date

end PluginKit.Timestamp
