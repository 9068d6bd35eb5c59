import Mathlib.Data.List.Basic
import PluginKit.Proofs.Effect
import PluginKit.Proofs.Time.Calendar
import PluginKit.Text.Utf8

/-!
# Points in time as texts

The text of a point in time is read back as that point if its year has four digits and nothing else.
A reader accepts more than that: an offset from universal time moves the point, at either end of the
calendar into a year whose text has a sign, and such a text is refused.

## Main statements

- `parse_text`: a point in time in a year from 0 to 9999 is read back from its text.
- `wellFormed_of_parse`: whatever is read counts on beyond a thousand million nanoseconds only in the
  last second of a minute.
- `parse_text_of_signed_year`: the text of a point in time in any other year is refused.
-/

namespace PluginKit

namespace Timestamp

/-- Fewer nanoseconds than two seconds have, and a leap second only after the last second of a
minute. -/
structure WellFormed (t : Timestamp) : Prop where
  nanos_lt : t.nanos < 2000000000
  leap : 1000000000 ≤ t.nanos → t.seconds % 60 = 59

/-- The year in universal time. -/
def year (t : Timestamp) : Int := (Date.ofDays (t.seconds / 86400)).year

/-! ## Digits -/

/-- Reads digits on from a number that was read before them. -/
def digitsFrom (n : Nat) (cs : List Char) : Except Flaw Nat :=
  cs.foldlM (fun n c => (digit? c).map fun d => 10 * n + d) n

theorem digits?_eq_digitsFrom (cs : List Char) : digits? cs = digitsFrom 0 cs := rfl

/-- Each digit makes room for another place. -/
theorem digitsFrom_cons {c : Char} {d : Nat} (h : digit? c = .ok d) (n : Nat) (cs : List Char) :
    digitsFrom n (c :: cs) = digitsFrom (10 * n + d) cs := by
  rw [digitsFrom, List.foldlM_cons, h]
  rfl

/-- A text that begins with a character that is no digit is refused. -/
theorem digitsFrom_cons_error {c : Char} {flaw : Flaw} (h : digit? c = .error flaw) (n : Nat)
    (cs : List Char) : digitsFrom n (c :: cs) = .error flaw := by
  rw [digitsFrom, List.foldlM_cons, h]
  rfl

/-- Digits are read as the number that they write. -/
theorem digitsFrom_of_isDigit {cs : List Char} (digits : ∀ c ∈ cs, c.isDigit = true) (n : Nat) :
    digitsFrom n cs = .ok (Nat.ofDigitChars 10 cs n) := by
  induction cs generalizing n with
  | nil => rfl
  | cons c cs ih =>
    have first : digit? c = .ok (c.toNat - '0'.toNat) := if_pos (digits c List.mem_cons_self)
    rw [digitsFrom_cons first, Nat.ofDigitChars_cons]
    apply ih
    intro d hd
    exact digits d (List.mem_cons_of_mem c hd)

/-- A digit is at most nine. -/
theorem digit?_le {c : Char} {d : Nat} (h : digit? c = .ok d) : d ≤ 9 := by
  unfold digit? at h
  split at h
  · next digit =>
    cases h
    rw [Char.isDigit, Bool.and_eq_true, decide_eq_true_eq, decide_eq_true_eq] at digit
    have top : c.toNat ≤ 57 := digit.2
    change c.toNat - 48 ≤ 9
    omega
  · cases h

/-- A number that was read on from another is below the next one with as many places more. -/
theorem digitsFrom_lt {cs : List Char} {a n : Nat} (h : digitsFrom a cs = .ok n) :
    n < 10 ^ cs.length * (a + 1) := by
  induction cs generalizing a with
  | nil =>
    cases h
    rw [List.length_nil, Nat.pow_zero, Nat.one_mul]
    exact Nat.lt_succ_self _
  | cons c cs ih =>
    cases hd : digit? c with
    | error flaw =>
      rw [digitsFrom_cons_error hd] at h
      cases h
    | ok d =>
      rw [digitsFrom_cons hd] at h
      have small := digit?_le hd
      calc n < 10 ^ cs.length * (10 * a + d + 1) := ih h
        _ ≤ 10 ^ cs.length * (10 * (a + 1)) := Nat.mul_le_mul_left _ (by omega)
        _ = 10 ^ (c :: cs).length * (a + 1) := by
          rw [List.length_cons, Nat.pow_succ, Nat.mul_assoc]

/-- A number is below the power of ten with as many zeros as it has digits. -/
theorem digits?_lt {cs : List Char} {n : Nat} (h : digits? cs = .ok n) : n < 10 ^ cs.length := by
  have bound := digitsFrom_lt ((digits?_eq_digitsFrom cs).symm.trans h)
  rwa [Nat.zero_add, Nat.mul_one] at bound

/-- A text that does not begin with a digit is no number. -/
theorem digits?_cons_of_not_isDigit {c : Char} (other : c.isDigit = false) (cs : List Char) :
    digits? (c :: cs) = .error .invalid := by
  have refused : digit? c = .error .invalid := by
    rw [digit?, other]
    rfl
  rw [digits?_eq_digitsFrom, digitsFrom_cons_error refused]

/-- The characters of a number with zeros in front. -/
theorem toList_padded (width n : Nat) : (padded width n).toList =
    List.replicate (width - (Nat.toDigits 10 n).length) '0' ++ Nat.toDigits 10 n :=
  String.toList_ofList

/-- A number is written in digits. -/
theorem isDigit_padded {width n : Nat} : ∀ c ∈ (padded width n).toList, c.isDigit = true := by
  intro c hc
  rw [toList_padded, List.mem_append] at hc
  rcases hc with zero | digit
  · rw [List.eq_of_mem_replicate zero]
    rfl
  · exact Nat.isDigit_of_mem_toDigits (by omega) (by omega) digit

/-- A number is read back, however many zeros stand before it. -/
theorem digits?_padded (width n : Nat) : digits? (padded width n).toList = .ok n := by
  rw [digits?_eq_digitsFrom, digitsFrom_of_isDigit isDigit_padded, toList_padded,
    Nat.ofDigitChars_append, Nat.ofDigitChars_replicate_zero, Nat.mul_zero,
    Nat.ofDigitChars_ten_toDigits]

/-- A number that fits in a width is written in exactly that width. -/
theorem length_padded {width n : Nat} (pos : 0 < width) (h : n < 10 ^ width) :
    (padded width n).toList.length = width := by
  have short := (Nat.length_toDigits_le_iff (by omega) pos).2 h
  rw [toList_padded, List.length_append, List.length_replicate]
  omega

/-- No number is written in less than its width. -/
theorem le_length_padded (width n : Nat) : width ≤ (padded width n).toList.length := by
  rw [toList_padded, List.length_append, List.length_replicate]
  omega

/-! ## Octets -/

/-- A digit is one octet. -/
theorem utf8Size_of_isDigit {c : Char} (h : c.isDigit = true) : c.utf8Size = 1 := by
  rw [Char.isDigit, Bool.and_eq_true, decide_eq_true_eq, decide_eq_true_eq] at h
  unfold Char.utf8Size
  rw [if_pos]
  exact Nat.le_trans h.2 (by decide)

/-- Texts are spread one after the other. -/
theorem spread_append (cs ds : List Char) : spread (cs ++ ds) = spread cs ++ spread ds :=
  List.flatMap_append

/-- A text of ASCII has one octet for each character. -/
theorem spread_eq_self {cs : List Char} (h : ∀ c ∈ cs, c.utf8Size = 1) : spread cs = cs := by
  induction cs with
  | nil => rfl
  | cons c cs ih =>
    rw [spread, List.flatMap_cons, h c List.mem_cons_self]
    exact congrArg (c :: ·) (ih fun d hd => h d (List.mem_cons_of_mem c hd))

/-- A text has at least one octet for every character. -/
theorem length_le_octets (cs : List Char) : cs.length ≤ octets cs :=
  Text.length_le_size_encode cs

/-! ## Date and time of day -/

/-- Date and time of day as they are written. -/
def clockText (c : Clock) : List Char :=
  (yearText c.date.year).toList ++ '-' :: (padded 2 c.date.month).toList ++
    '-' :: (padded 2 c.date.day).toList ++ 'T' :: (padded 2 c.hour).toList ++
    ':' :: (padded 2 c.minute).toList ++ ':' :: (padded 2 c.second).toList

/-- A date and a time of day whose numbers have the digits that there is room for. -/
structure Clock.Fits (c : Clock) : Prop where
  year : 0 ≤ c.date.year ∧ c.date.year ≤ 9999
  date : c.date.isValid = true
  hour : c.hour < 24
  minute : c.minute < 60
  second : c.second ≤ 60

/-- A year from 0 to 9999 is written in its digits. -/
theorem yearText_of_unsigned {y : Int} (h : 0 ≤ y ∧ y ≤ 9999) : yearText y = padded 4 y.toNat :=
  if_pos h

/-- Any other year is written with a sign. -/
theorem yearText_of_signed {y : Int} (h : ¬ (0 ≤ y ∧ y ≤ 9999)) :
    ∃ c, c.isDigit = false ∧ c.utf8Size = 1 ∧
      (yearText y).toList = c :: (padded 4 y.natAbs).toList := by
  rw [yearText, if_neg h, String.toList_append]
  split
  · exact ⟨'-', rfl, rfl, rfl⟩
  · exact ⟨'+', rfl, rfl, rfl⟩

/-- No date and time of day takes less than nineteen characters. -/
theorem le_length_clockText (c : Clock) : 19 ≤ (clockText c).length := by
  have year : 4 ≤ (yearText c.date.year).toList.length := by
    by_cases h : 0 ≤ c.date.year ∧ c.date.year ≤ 9999
    · rw [yearText_of_unsigned h]
      exact le_length_padded 4 _
    · obtain ⟨sign, -, -, eq⟩ := yearText_of_signed h
      rw [eq]
      exact Nat.le_succ_of_le (le_length_padded 4 _)
  have month := le_length_padded 2 c.date.month
  have day := le_length_padded 2 c.date.day
  have hour := le_length_padded 2 c.hour
  have minute := le_length_padded 2 c.minute
  have second := le_length_padded 2 c.second
  simp only [clockText, List.length_append, List.length_cons]
  omega

/-- Date and time of day fill nineteen characters. -/
theorem length_clockText {c : Clock} (fits : c.Fits) : (clockText c).length = 19 := by
  obtain ⟨month, day⟩ := Date.month_lt_and_day_lt fits.date
  have year : c.date.year.toNat < 10 ^ 4 := by
    have := fits.year
    omega
  have two {n : Nat} (h : n < 100) : (padded 2 n).toList.length = 2 := length_padded (by decide) h
  have hour := two (Nat.lt_trans fits.hour (by decide))
  have minute := two (Nat.lt_trans fits.minute (by decide))
  have second := two (Nat.lt_of_le_of_lt fits.second (by decide))
  simp only [clockText, yearText_of_unsigned fits.year, List.length_append, List.length_cons,
    length_padded (by decide) year, two month, two day, hour, minute, second]

/-- Date and time of day are written in ASCII. -/
theorem utf8Size_clockText {c : Clock} (fits : c.Fits) : ∀ d ∈ clockText c, d.utf8Size = 1 := by
  have digits {w n : Nat} : ∀ d ∈ (padded w n).toList, d.utf8Size = 1 := by
    intro d hd
    exact utf8Size_of_isDigit (isDigit_padded d hd)
  intro d hd
  simp only [clockText, yearText_of_unsigned fits.year, List.mem_append, List.mem_cons] at hd
  rcases hd with ((((hd | rfl | hd) | rfl | hd) | rfl | hd) | rfl | hd) | rfl | hd
  all_goals first | rfl | exact digits d hd

/-- Date and time of day are read back, whatever follows. -/
theorem readClock_clockText {c : Clock} (fits : c.Fits) (rest : List Char) :
    readClock (clockText c ++ rest) = .ok c := by
  obtain ⟨month, day⟩ := Date.month_lt_and_day_lt fits.date
  have hour : c.hour < 100 := Nat.lt_trans fits.hour (by decide)
  have minute : c.minute < 100 := Nat.lt_trans fits.minute (by decide)
  have second : c.second < 100 := Nat.lt_of_le_of_lt fits.second (by decide)
  have year : c.date.year.toNat < 10000 := by
    have := fits.year
    omega
  -- the reader names its characters one by one, so the digits are named as well
  have two (n : Nat) (h : n < 100) :
      ∃ a b, (padded 2 n).toList = [a, b] ∧ digits? [a, b] = .ok n := by
    have size : (padded 2 n).toList.length = 2 := length_padded (by decide) h
    obtain ⟨a, b, eq⟩ := List.length_eq_two.1 size
    exact ⟨a, b, eq, eq ▸ digits?_padded 2 n⟩
  have four : (padded 4 c.date.year.toNat).toList.length = 4 := length_padded (by decide) year
  obtain ⟨y1, y2, y3, y4, ys⟩ := List.length_eq_four.1 four
  have ys' := digits?_padded 4 c.date.year.toNat
  rw [ys] at ys'
  obtain ⟨m1, m2, ms, ms'⟩ := two _ month
  obtain ⟨d1, d2, ds, ds'⟩ := two _ day
  obtain ⟨h1, h2, hs, hs'⟩ := two _ hour
  obtain ⟨n1, n2, ns, ns'⟩ := two _ minute
  obtain ⟨s1, s2, ss, ss'⟩ := two _ second
  have same : (c.date.year.toNat : Int) = c.date.year := Int.toNat_of_nonneg fits.year.1
  have date : (Date.mk c.date.year c.date.month c.date.day).isValid = true := fits.date
  rw [clockText, yearText_of_unsigned fits.year, ys, ms, ds, hs, ns, ss]
  simp only [List.cons_append, List.nil_append, readClock, ys', ms', ds', hs', ns', ss', same, date,
    bind, Except.bind, separator, List.mem_cons, true_or, or_true, if_true, Bool.not_true,
    Bool.false_eq_true, if_false, pure, Except.pure]

/-- A text that does not begin with a digit is no time. -/
theorem readClock_cons_of_not_isDigit {c : Char} (other : c.isDigit = false) (cs : List Char) :
    readClock (c :: cs) = .error .invalid := by
  unfold readClock
  split
  · next eq =>
    cases eq
    rw [digits?_cons_of_not_isDigit other]
    rfl
  · rfl

/-! ## Digits of a second -/

/-- Digits after the point are read up to the first character that is none. They count in units of
the last of nine places. -/
theorem readFraction_digits {ds rest : List Char} {n : Nat} (filled : ds ≠ [])
    (few : ds.length ≤ 9) (digits : ∀ c ∈ ds, c.isDigit = true) (value : digits? ds = .ok n)
    (stop : ∀ c ∈ rest.head?, c.isDigit = false) :
    readFraction ('.' :: (ds ++ rest)) = .ok (n * 10 ^ (9 - ds.length), rest) := by
  have after : rest.takeWhile Char.isDigit = [] ∧ rest.dropWhile Char.isDigit = rest := by
    cases rest with
    | nil => exact ⟨rfl, rfl⟩
    | cons c r => simp [stop c rfl]
  have taken : (ds ++ rest).takeWhile Char.isDigit = ds := by
    rw [List.takeWhile_append_of_pos digits, after.1, List.append_nil]
  have left : (ds ++ rest).dropWhile Char.isDigit = rest := by
    rw [List.dropWhile_append_of_pos digits, after.2]
  obtain ⟨d, r, eq⟩ : ∃ d r, ds ++ rest = d :: r :=
    List.exists_cons_of_ne_nil (List.append_ne_nil_of_left_ne_nil filled rest)
  have some : ds.isEmpty = false := List.isEmpty_eq_false_iff.2 filled
  rw [eq] at taken left
  rw [eq]
  simp only [readFraction, taken, left, some, List.take_of_length_le few, value]
  rfl

/-- A fraction that is written in a width is read back in units of its last digit. -/
theorem readFraction_padded {width n : Nat} (pos : 0 < width) (h : n < 10 ^ width)
    (few : width ≤ 9) :
    readFraction (('.' :: (padded width n).toList) ++ ['Z']) =
      .ok (n * 10 ^ (9 - width), ['Z']) := by
  have size := length_padded pos h
  have filled : (padded width n).toList ≠ [] := by
    intro none
    rw [none] at size
    exact absurd size (Nat.ne_of_lt pos)
  have stop : ∀ c ∈ ['Z'].head?, c.isDigit = false := by
    intro c hc
    cases hc
    rfl
  have read := readFraction_digits filled (by omega) isDigit_padded (digits?_padded width n) stop
  rwa [size] at read

/-- The digits of a second are read back, in however many groups they are written. -/
theorem readFraction_fractionText {n : Nat} (h : n < 1000000000) :
    readFraction ((fractionText n).toList ++ ['Z']) = .ok (n, ['Z']) := by
  have point (s : String) : ("." ++ s).toList = '.' :: s.toList := String.toList_append
  unfold fractionText
  split
  · next none =>
    rw [none]
    rfl
  split
  · next millis =>
    -- only zeros are left out, so nothing is lost by counting in larger units
    have back : n / 1000000 * 1000000 = n := Nat.div_mul_cancel (Nat.dvd_of_mod_eq_zero millis)
    rw [point, readFraction_padded (by omega) (by omega) (by omega)]
    rw [show 10 ^ (9 - 3) = 1000000 by decide, back]
  split
  · next micros =>
    have back : n / 1000 * 1000 = n := Nat.div_mul_cancel (Nat.dvd_of_mod_eq_zero micros)
    rw [point, readFraction_padded (by omega) (by omega) (by omega)]
    rw [show 10 ^ (9 - 6) = 1000 by decide, back]
  · rw [point, readFraction_padded (by omega) (by omega) (by omega), Nat.sub_self, Nat.pow_zero,
      Nat.mul_one]

/-- The fraction of a second is less than a second. -/
theorem readFraction_lt {cs rest : List Char} {n : Nat} (h : readFraction cs = .ok (n, rest)) :
    n < 1000000000 := by
  unfold readFraction at h
  split at h
  · next digits =>
    split at h
    · cases h
    dsimp only at h
    split at h
    · cases h
    obtain ⟨m, read, eq⟩ := ok_of_bind h
    cases eq
    have few : ((digits.takeWhile Char.isDigit).take 9).length ≤ 9 := by
      rw [List.length_take]
      exact Nat.min_le_left _ _
    generalize ((digits.takeWhile Char.isDigit).take 9) = ds at read few
    calc m * 10 ^ (9 - ds.length) < 10 ^ ds.length * 10 ^ (9 - ds.length) :=
          Nat.mul_lt_mul_of_pos_right (digits?_lt read) (Nat.pow_pos (by decide))
      _ = 10 ^ 9 := by rw [← Nat.pow_add, Nat.add_sub_cancel' few]
      _ = 1000000000 := by decide
  · cases h
    decide

/-! ## Offsets -/

/-- Offsets are whole minutes. -/
theorem readOffset_minutes {cs rest : List Char} {offset : Int}
    (h : readOffset cs = .ok (offset, rest)) : offset % 60 = 0 := by
  unfold readOffset at h
  split at h
  · cases h
  split at h
  · cases h
    rfl
  extract_lets onward at h
  -- what follows a sign is read in the same way for both signs
  have minutely (sign : Int) (h : onward sign = .ok (offset, rest)) : offset % 60 = 0 := by
    obtain ⟨⟨hours, r⟩, -, h⟩ := ok_of_bind h
    dsimp only at h
    split at h
    · cases h
    · obtain ⟨r', -, h⟩ := ok_of_bind h
      obtain ⟨⟨minutes, r''⟩, -, h⟩ := ok_of_bind h
      dsimp only at h
      split at h
      · cases h
      cases h
      have whole : ((hours * 3600 + minutes * 60 : Nat) : Int) = 60 * (hours * 60 + minutes) := by
        omega
      rw [whole, Int.mul_left_comm]
      exact Int.mul_emod_right 60 _
    · cases h
  split at h
  · exact minutely 1 h
  · split at h
    · exact minutely (-1) h
    · cases h

/-! ## Reading what is written -/

/-- Date and time of day of a point in time, as they are written. -/
def clock (t : Timestamp) : Clock where
  date := Date.ofDays (t.seconds / 86400)
  hour := (t.seconds % 86400).toNat / 3600
  minute := (t.seconds % 86400).toNat / 60 % 60
  second := (t.seconds % 86400).toNat % 60 + if t.nanos < 1000000000 then 0 else 1

/-- The nanoseconds that are written after the point. -/
def fraction (t : Timestamp) : Nat := t.nanos - (if t.nanos < 1000000000 then 0 else 1) * 1000000000

/-- A point in time is written as its date and time of day, the digits of a second and the sign of
universal time. -/
theorem toList_text (t : Timestamp) :
    t.text.toList = clockText t.clock ++ ((fractionText t.fraction).toList ++ ['Z']) := by
  have dash : "-".toList = ['-'] := by decide
  have colon : ":".toList = [':'] := by decide
  have time : "T".toList = ['T'] := by decide
  have universal : "Z".toList = ['Z'] := by decide
  simp only [text, clockText, clock, fraction, String.toList_append, List.append_assoc, dash, colon,
    time, universal, List.cons_append, List.nil_append]

/-- Every text of a point in time has the octets of a date and a time of day. -/
theorem enough_text (t : Timestamp) : ¬ octets t.text.toList < 19 := by
  have clock := le_length_clockText t.clock
  have octets := length_le_octets t.text.toList
  rw [toList_text, List.length_append] at octets
  rw [toList_text]
  omega

/-- Date and time of day of a point in time fit if its year does. -/
theorem fits_clock {t : Timestamp} (year : 0 ≤ t.year ∧ t.year ≤ 9999) : t.clock.Fits where
  year := year
  date := Date.isValid_ofDays _
  hour := by
    simp only [clock]
    omega
  minute := by
    simp only [clock]
    omega
  second := by
    simp only [clock]
    split <;> omega

/-- The second 60 is written in a leap second and at no other time. -/
theorem leap_iff {t : Timestamp} (wellFormed : t.WellFormed) :
    t.clock.second = 60 ↔ 1000000000 ≤ t.nanos := by
  have leap := wellFormed.leap
  simp only [clock]
  split <;> omega

/-- The time of day stands still in a leap second. -/
theorem timeOfDay_clock {t : Timestamp} (wellFormed : t.WellFormed) :
    t.clock.hour * 3600 + t.clock.minute * 60 +
      (if t.clock.second = 60 then 59 else t.clock.second) = (t.seconds % 86400).toNat := by
  have leap := wellFormed.leap
  simp only [leap_iff wellFormed]
  simp only [clock]
  split
  · next late =>
    have last := leap late
    omega
  · next early =>
    rw [if_pos (Nat.lt_of_not_le early)]
    omega

/-- The nanoseconds are those after the point, and a thousand million in a leap second. -/
theorem fraction_add {t : Timestamp} (wellFormed : t.WellFormed) :
    t.fraction + (if t.clock.second = 60 then 1000000000 else 0) = t.nanos := by
  simp only [leap_iff wellFormed, fraction]
  split <;> split <;> omega

/-- Less than a second is written after the point. -/
theorem fraction_lt {t : Timestamp} (wellFormed : t.WellFormed) : t.fraction < 1000000000 := by
  have bound := wellFormed.nanos_lt
  unfold fraction
  split <;> omega

/-- A point in time in a year from 0 to 9999 is read back from its text. -/
theorem parse_text {t : Timestamp} (wellFormed : t.WellFormed)
    (year : 0 ≤ t.year ∧ t.year ≤ 9999) : parse t.text = .ok t := by
  have fits := fits_clock year
  have whole := toList_text t
  -- the clock is ASCII, so its octets are its characters
  have first : spread t.text.toList =
      clockText t.clock ++ spread ((fractionText t.fraction).toList ++ ['Z']) := by
    rw [whole, spread_append, spread_eq_self (utf8Size_clockText fits)]
  have clock : readClock (spread t.text.toList) = .ok t.clock := by
    rw [first, readClock_clockText fits]
  have fraction : readFraction (t.text.toList.drop 19) = .ok (t.fraction, ['Z']) := by
    rw [whole, List.drop_left' (length_clockText fits)]
    exact readFraction_fractionText (fraction_lt wellFormed)
  have offset : readOffset ['Z'] = .ok (0, []) := rfl
  have ofDay : ¬ (24 ≤ t.clock.hour ∨ 60 ≤ t.clock.minute ∨
      60 ≤ if t.clock.second = 60 then 59 else t.clock.second) := by
    obtain ⟨-, -, hour, minute, second⟩ := fits
    split <;> omega
  have seconds :
      t.clock.date.toDays * 86400 + ((t.seconds % 86400).toNat : Int) - 0 = t.seconds := by
    have days : t.clock.date.toDays = t.seconds / 86400 := Date.toDays_ofDays _
    rw [days]
    omega
  simp only [parse, if_neg (enough_text t), clock, fraction, offset, bind, Except.bind, if_neg ofDay,
    maxOffset, Int.natAbs_zero, Nat.not_lt_zero, if_false, List.isEmpty_nil, Bool.not_true,
    Bool.false_eq_true, pure, Except.pure, timeOfDay_clock wellFormed, fraction_add wellFormed,
    seconds]

/-! ## Writing what is read -/

/-- A timestamp that was read has its leap seconds at the end of a minute. -/
theorem wellFormed_of_parse {s : String} {t : Timestamp} (h : parse s = .ok t) : t.WellFormed := by
  unfold parse at h
  extract_lets onward at h
  split at h
  · cases h
  obtain ⟨clock, -, h⟩ := ok_of_bind h
  obtain ⟨⟨nanos, r⟩, read, h⟩ := ok_of_bind h
  dsimp only at h
  -- the second is named first, since the condition on it stands inside the condition to be split
  generalize eq : (if clock.second = 60 then 59 else clock.second) = second at h
  split at h
  · cases h
  obtain ⟨⟨offset, rest⟩, shift, h⟩ := ok_of_bind h
  dsimp only at h
  split at h
  · cases h
  split at h
  · cases h
  cases h
  have small := readFraction_lt read
  have minutes := readOffset_minutes shift
  constructor
  · dsimp only
    split <;> omega
  · -- an offset of whole minutes does not move the second in its minute
    intro late
    dsimp only at late ⊢
    by_cases leap : clock.second = 60
    · rw [if_pos leap] at eq
      omega
    · rw [if_neg leap] at late
      omega

/-- The text of a point in time in a year with a sign is refused. -/
theorem parse_text_of_signed_year {t : Timestamp} (year : ¬ (0 ≤ t.year ∧ t.year ≤ 9999)) :
    parse t.text = .error .invalid := by
  obtain ⟨sign, other, single, written⟩ := yearText_of_signed year
  have whole : ∃ rest, t.text.toList = sign :: rest := by
    have first : (yearText t.clock.date.year).toList = sign :: (padded 4 t.year.natAbs).toList :=
      written
    rw [toList_text, clockText, first]
    exact ⟨_, rfl⟩
  obtain ⟨rest, whole⟩ := whole
  have spread : spread t.text.toList = sign :: spread rest := by
    rw [whole, spread, List.flatMap_cons, single]
    rfl
  have clock : readClock (Timestamp.spread t.text.toList) = .error .invalid := by
    rw [spread, readClock_cons_of_not_isDigit other]
  rw [parse, if_neg (enough_text t), clock]
  rfl

end Timestamp

end PluginKit
