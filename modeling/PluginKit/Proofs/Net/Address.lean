import Mathlib.Tactic.IntervalCases
import PluginKit.Connection
import PluginKit.Proofs.Digits

/-!
# Addresses that are printed

A number is read back from its digits, whatever follows them, unless that is a digit itself. So the parts
of a printed address of version 4 are read one after another, each up to the mark that ends it.

## Main statements

- `number_toDigits`: a number is read back from its digits, in every base that is read.
- `rest_of_number`: what a number leaves is the text after its digits.
- `parse?_text_v4`: an address of version 4 is read back from its text.
-/

namespace PluginKit

namespace Net

variable {base n : Nat} {ds : List Nat} {s rest : List Char}

/-! ## Numbers -/

/-- A digit is read as its value. -/
theorem digit?_digitChar {d : Nat} (below : d < base) (sixteen : base ≤ 16) :
    digit? base d.digitChar = some d := by
  have small : d < 16 := Nat.lt_of_lt_of_le below sixteen
  unfold digit?
  interval_cases d <;> exact if_pos below

/-- No digit is taken from a text that does not start with one. -/
theorem takeWhile_digit?_eq_nil (next : ∀ c ∈ s.head?, digit? base c = none) :
    s.takeWhile (fun c => (digit? base c).isSome) = [] := by
  cases s with
  | nil => rfl
  | cons c r => rw [List.takeWhile_cons_of_neg (by simp [next c rfl])]

/-- Digits are all taken, up to something that is no digit. -/
theorem digitsAhead_map (below : ∀ d ∈ ds, d < base) (sixteen : base ≤ 16)
    (next : ∀ c ∈ rest.head?, digit? base c = none) :
    digitsAhead base (ds.map Nat.digitChar ++ rest) = ds := by
  have taken : ∀ c ∈ ds.map Nat.digitChar, (digit? base c).isSome = true := by
    intro c member
    obtain ⟨d, here, rfl⟩ := List.mem_map.1 member
    rw [digit?_digitChar (below d here) sixteen]
    rfl
  rw [digitsAhead, List.takeWhile_append_of_pos taken, takeWhile_digit?_eq_nil next, List.append_nil,
    List.filterMap_map]
  calc ds.filterMap (digit? base ∘ Nat.digitChar)
      = ds.filterMap some := List.filterMap_congr fun d here => digit?_digitChar (below d here) sixteen
    _ = ds := List.filterMap_some

/-- A number below the bound is read back from its digits, if these are not too many. -/
theorem number_toDigits {bound : Nat} {most : Option Nat} (two : 1 < base) (sixteen : base ≤ 16)
    (below : n < bound) (short : ∀ m ∈ most, (Nat.toDigits base n).length ≤ m) (leadingZero : Bool)
    (next : ∀ c ∈ rest.head?, digit? base c = none) :
    number base bound most leadingZero (Nat.toDigits base n ++ rest) = some (n, rest) := by
  obtain ⟨ds, spelt⟩ := exists_spelt two n
  have length : (Nat.toDigits base n).length = ds.length := by
    rw [spelt.written, List.length_map]
  have notLong : most.any (fun m => decide (m < ds.length)) = false := by
    cases most with
    | none => rfl
    | some m =>
      have := short m rfl
      exact decide_eq_false (by omega)
  -- a zero in front is refused only before another digit
  have noLead : (!leadingZero && ds.head? == some 0 && decide (1 < ds.length)) = false := by
    by_cases lead : ds.head? = some 0
    · simp [spelt.lead lead]
    · simp [lead]
  have dropped : (Nat.toDigits base n ++ rest).drop ds.length = rest := by
    rw [← length, List.drop_left]
  have ahead : digitsAhead base (Nat.toDigits base n ++ rest) = ds := by
    rw [spelt.written]
    exact digitsAhead_map spelt.below sixteen next
  simp only [number, ahead, spelt.value, dropped, notLong, noLead, List.isEmpty_eq_false_iff.2 spelt.ne_nil,
    decide_eq_false (Nat.not_le.2 below), Bool.or_self, Bool.false_eq_true, if_false]

/-- If as many digits are allowed as the bound has, no number below the bound is too long. -/
theorem number_within {bound most : Nat} (two : 1 < base) (sixteen : base ≤ 16) (below : n < bound)
    (pos : 0 < most) (enough : bound ≤ base ^ most) (leadingZero : Bool)
    (next : ∀ c ∈ rest.head?, digit? base c = none) :
    number base bound (some most) leadingZero (Nat.toDigits base n ++ rest) = some (n, rest) := by
  apply number_toDigits two sixteen below _ _ next
  intro m limit
  cases limit
  exact (Nat.length_toDigits_le_iff two pos).2 (Nat.lt_of_lt_of_le below enough)

/-- A digit of the numbers to ten is one of the numbers to sixteen. -/
theorem digit?_ten_of_sixteen {c : Char} (other : digit? 16 c = none) : digit? 10 c = none := by
  simp only [digit?, ite_eq_right_iff, reduceCtorEq, imp_false] at other ⊢
  omega

/-- No number is read from a text that does not start with a digit. -/
theorem number_eq_none {bound : Nat} {most : Option Nat} {leadingZero : Bool}
    (next : ∀ c ∈ s.head?, digit? base c = none) : number base bound most leadingZero s = none := by
  simp [number, digitsAhead, takeWhile_digit?_eq_nil next]

/-- Reading a number leaves the text after its digits. -/
theorem rest_of_number {bound : Nat} {most : Option Nat} {leadingZero : Bool}
    (read : number base bound most leadingZero s = some (n, rest)) :
    rest = s.dropWhile fun c => (digit? base c).isSome := by
  have length : (s.takeWhile fun c => (digit? base c).isSome).length = (digitsAhead base s).length :=
    (List.filterMap_length_eq_length.2 (List.all_eq_true.1 List.all_takeWhile)).symm
  have whole := List.takeWhile_append_dropWhile (p := fun c => (digit? base c).isSome) (l := s)
  simp only [number, Option.ite_none_left_eq_some, Option.some.injEq, Prod.mk.injEq] at read
  calc rest = s.drop (digitsAhead base s).length := read.2.2.symm
    _ = ((s.takeWhile fun c => (digit? base c).isSome) ++
          s.dropWhile fun c => (digit? base c).isSome).drop (digitsAhead base s).length := by rw [whole]
    _ = s.dropWhile fun c => (digit? base c).isSome := List.drop_left' length

/-! ## Addresses of version 4 -/

/-- Four octets. -/
structure V4.Proper (ip : V4) : Prop where
  four : ip.octets.length = 4
  octet : ∀ o ∈ ip.octets, o < 256

/-- An octet is read back up to a mark. -/
theorem number_octet {o : Nat} (octet : o < 256) (next : ∀ c ∈ rest.head?, digit? 10 c = none) :
    number 10 256 (some 3) false (Nat.toDigits 10 o ++ rest) = some (o, rest) :=
  number_within (by decide) (by decide) octet (by decide) (by decide) false next

/-- The further octets of an address and the text after it do not begin with a digit. -/
theorem next_octets (os : List Nat) (next : ∀ c ∈ rest.head?, digit? 10 c = none) :
    ∀ c ∈ (os.flatMap (fun o => '.' :: Nat.toDigits 10 o) ++ rest).head?, digit? 10 c = none := by
  cases os with
  | nil => exact next
  | cons o os =>
    intro c first
    cases first
    decide

/-- The octets after the first one are read back, each after its mark. -/
theorem octetsFrom_later {os : List Nat} {index : Nat} (later : index ≠ 0) (octet : ∀ o ∈ os, o < 256)
    (next : ∀ c ∈ rest.head?, digit? 10 c = none) :
    octetsFrom os.length index (os.flatMap (fun o => '.' :: Nat.toDigits 10 o) ++ rest) =
      some (os, rest) := by
  induction os generalizing index with
  | nil => rfl
  | cons o os ih =>
    -- what follows this octet begins with a mark again, or is the rest
    have here := number_octet (octet o (by simp)) (next_octets os next)
    have behind := ih (Nat.succ_ne_zero index) fun p member => octet p (by simp [member])
    simp only [List.length_cons, octetsFrom, separated, if_neg later, List.flatMap_cons, List.cons_append,
      List.append_assoc, given, if_pos, Option.bind_some, here, behind, bind, pure]

/-- The text of numbers is that of the first and of the others, each after its mark. -/
theorem toList_intercalate_row (mark : String) (write : Nat → String) (n : Nat) (ns : List Nat) :
    (mark.intercalate ((n :: ns).map write)).toList =
      (write n).toList ++ ns.flatMap fun m => mark.toList ++ (write m).toList := by
  induction ns generalizing n with
  | nil => simp
  | cons m ns ih =>
    rw [List.map_cons, List.map_cons, String.intercalate_cons_cons, String.toList_append,
      String.toList_append, ← List.map_cons, ih m, List.flatMap_cons, List.append_assoc, List.append_assoc]

/-- The text of an address begins with the digits of its first octet. -/
theorem V4.Proper.exists_toList {ip : V4} (proper : ip.Proper) :
    ∃ o os, ip.octets = o :: os ∧
      ip.text.toList = Nat.toDigits 10 o ++ os.flatMap fun p => '.' :: Nat.toDigits 10 p := by
  cases octets : ip.octets with
  | nil => cases octets ▸ proper.four
  | cons o os =>
    refine ⟨o, os, rfl, ?_⟩
    rw [V4.text, octets]
    simpa using toList_intercalate_row "." toString o os

/-- An address is read back from its text, up to something that is no digit. -/
theorem readV4_text {ip : V4} (proper : ip.Proper) (next : ∀ c ∈ rest.head?, digit? 10 c = none) :
    readV4 (ip.text.toList ++ rest) = some (ip, rest) := by
  obtain ⟨o, os, octets, text⟩ := proper.exists_toList
  have three : os.length = 3 := by
    have four := proper.four
    rw [octets, List.length_cons] at four
    omega
  have octet := proper.octet
  rw [octets] at octet
  have here := number_octet (octet o (by simp)) (next_octets os next)
  have behind := octetsFrom_later Nat.one_ne_zero (fun p member => octet p (List.mem_cons_of_mem o member)) next
  rw [three] at behind
  have all : octetsFrom 4 0 (ip.text.toList ++ rest) = some (o :: os, rest) := by
    rw [text, List.append_assoc, octetsFrom]
    simp only [separated, if_true, here, behind, bind, pure, Option.bind_some, Nat.zero_add]
  rw [readV4, all, Option.map_some, ← octets]

/-- An address of version 4 has a dot after its first number. -/
theorem readV4_eq_none (noDot : ∀ c ∈ (s.dropWhile fun c => (digit? 10 c).isSome).head?, c ≠ '.') :
    readV4 s = none := by
  have octets : octetsFrom 4 0 s = none := by
    rw [octetsFrom]
    simp only [separated, if_true, bind, Option.bind_eq_none_iff]
    rintro ⟨o, left⟩ first
    -- the second octet is missed, as its mark is no dot
    have unmarked : given '.' left = none := by
      rw [← rest_of_number first] at noDot
      cases left with
      | nil => rfl
      | cons c r => rw [given, if_neg (noDot c rfl)]
    simp [octetsFrom, separated, unmarked]
  rw [readV4, octets, Option.map_none]

/-- A port is read back from its text after the colon. -/
theorem readPort_text {port : Nat} (h : port < 65536) :
    readPort (':' :: (toString port).toList) = some (port, []) := by
  have digits : number 10 65536 none true (Nat.toDigits 10 port ++ []) = some (port, []) := by
    apply number_toDigits (by decide) (by decide) h
    · intro m most
      cases most
    · intro c next
      cases next
  rw [List.append_nil] at digits
  rw [readPort, given, if_pos rfl, Option.bind_some, Nat.toString_eq_repr, Nat.toList_repr]
  exact digits

/-- An address with its port is read back from its text. -/
theorem parse?_text_v4 {ip : V4} {port : Nat} (proper : ip.Proper) (h : port < 65536) :
    Address.parse? (Address.v4 ip port).text.toList = some (.v4 ip port) := by
  have text : (Address.v4 ip port).text.toList = ip.text.toList ++ (':' :: (toString port).toList) := by
    simp [Address.text]
  have colon : ∀ c ∈ (':' :: (toString port).toList).head?, digit? 10 c = none := by
    intro c first
    cases first
    decide
  have read : readAddress4 (Address.v4 ip port).text.toList = some (.v4 ip port, []) := by
    rw [text, readAddress4]
    simp only [readV4_text proper colon, readPort_text h, bind, pure, Option.bind_some]
  rw [Address.parse?, read]
  rfl

end Net

end PluginKit
