import PluginKit.Binary64

/-!
# Shortest decimal text of a floating point number

The text of a number has the fewest digits from which the number is read back, and of those the ones
nearest to it. The digits are found on decimal grids: on the grid of `n` digits only the two
neighbours of the number can lie nearest, so each grid from one digit up is tried until a neighbour
lies in the interval of reals that round to the number.

A record says how digits and exponent are set down, so that the search knows no format.
-/

namespace PluginKit

/-- `digits * 10^power`, the digits of a positive decimal number. -/
structure Decimal where
  digits : Nat
  power : Int
  deriving DecidableEq, Repr

/-- A power of ten as a fraction. -/
def tenPow (p : Int) : Nat × Nat :=
  if p < 0 then (1, Nat.pow 10 (-p).toNat) else (Nat.pow 10 p.toNat, 1)

/-- The interval of reals that round to a number, over a common denominator. -/
structure Basin where
  low : Nat
  mid : Nat
  high : Nat
  den : Nat
  closed : Bool

/-- Below a power of two the neighbours are twice as close as above it. -/
def Basin.of (x : Binary64) : Basin :=
  let m := x.mantissa
  let low := if m = Nat.pow 2 52 ∧ 1 < x.biased then 4 * m - 1 else 4 * m - 2
  let s (k : Nat) := if x.exponent - 2 < 0 then k else k * Nat.pow 2 (x.exponent - 2).toNat
  let den := if x.exponent - 2 < 0 then Nat.pow 2 (2 - x.exponent).toNat else 1
  { low := s low, mid := s (4 * m), high := s (4 * m + 2), den, closed := m % 2 == 0 }

/-- Whether `digits * 10^power` rounds to the number. -/
def Basin.holds (b : Basin) (d : Decimal) : Bool :=
  let (n, e) := tenPow d.power
  let v := d.digits * n * b.den
  if b.closed then b.low * e ≤ v && v ≤ b.high * e else b.low * e < v && v < b.high * e

/-- The distance of `digits * 10^power` from the number, over the denominator of the power. -/
def Basin.distance (b : Basin) (d : Decimal) : Nat :=
  let (n, e) := tenPow d.power
  let v := d.digits * n * b.den
  if v ≤ b.mid * e then b.mid * e - v else v - b.mid * e

/-- The power `p` with `10^p ≤ mid/den < 10^(p+1)`, searched for from an upper bound. -/
def Basin.leading (b : Basin) : Nat → Int → Int
  | 0, p => p
  | fuel + 1, p =>
    let (n, e) := tenPow p
    if n * b.den ≤ b.mid * e then p else leading b fuel (p - 1)

/-- The better neighbour on the grid of the power, if one rounds to the number. A tie goes to the
even digit. -/
def Basin.onGrid (b : Basin) (power : Int) : Option Decimal :=
  let (n, e) := tenPow power
  let k := b.mid * e / (b.den * n)
  let below : Decimal := ⟨k, power⟩
  let above : Decimal := ⟨k + 1, power⟩
  match b.holds below, b.holds above with
  | true, true =>
    let db := b.distance below
    let da := b.distance above
    if db < da then some below else if da < db then some above
    else if k % 2 = 0 then some below else some above
  | true, false => some below
  | false, true => some above
  | false, false => none

/-- The first grid with a hit, from the coarsest on. -/
def Basin.search (b : Basin) : Nat → Int → Decimal
  | 0, p => (b.onGrid p).getD ⟨b.mid / b.den, 0⟩
  | fuel + 1, p => (b.onGrid p).getD (search b fuel (p - 1))

/-- The digits without zeros at the end. -/
def Decimal.strip (fuel : Nat) (d : Decimal) : Decimal :=
  match fuel with
  | 0 => d
  | fuel + 1 => if d.digits ≠ 0 ∧ d.digits % 10 = 0 then strip fuel ⟨d.digits / 10, d.power + 1⟩ else d

/-- The shortest decimal that is read back as the number, which is finite and not zero. -/
def Binary64.shortest (x : Binary64) : Decimal :=
  let b := Basin.of x
  (b.search 18 (b.leading 640 309)).strip 20

/-! ## Setting the digits down -/

/-- How a decimal number is written. Exponents from `least` to `most` are written positionally. -/
structure DecimalFormat where
  least : Int
  most : Int
  exponentMark : String
  plus : String

/-- The decimal digits of a number. -/
def digitsOf (n : Nat) : List Char := Nat.toDigits 10 n

/-- The text of a positive decimal in a format. A whole number keeps one digit after the point. -/
def DecimalFormat.write (f : DecimalFormat) (d : Decimal) : String :=
  let ds := digitsOf d.digits
  let e : Int := d.power + ds.length - 1
  if f.least ≤ e ∧ e ≤ f.most then
    if 0 ≤ d.power then
      String.ofList (ds ++ List.replicate d.power.toNat '0' ++ ['.', '0'])
    else if 0 ≤ e then
      String.ofList (ds.take (e + 1).toNat ++ '.' :: ds.drop (e + 1).toNat)
    else
      String.ofList ('0' :: '.' :: List.replicate (-e - 1).toNat '0' ++ ds)
  else
    let head := match ds with
      | [] => []
      | [c] => [c]
      | c :: cs => c :: '.' :: cs
    String.ofList head ++ f.exponentMark ++ (if e < 0 then "-" else f.plus) ++ toString e.natAbs

/-- The text of a finite number: its sign, and its magnitude in the format. -/
def DecimalFormat.text (f : DecimalFormat) (x : Binary64) : String :=
  let magnitude := if x.isZero then "0.0" else f.write x.shortest
  if x.isNegative then "-" ++ magnitude else magnitude

end PluginKit
