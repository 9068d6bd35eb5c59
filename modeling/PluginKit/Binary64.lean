/-!
# Binary floating point numbers of 64 bits

A number is kept as its 64 bits. Its value is `(-1)^sign * mantissa * 2^exponent`, and every operation
is the exact one on rationals followed by one rounding to the nearest number, a tie going to the
even mantissa. All arithmetic is on natural numbers, so every result is computed by the kernel as
well as by the machine.
-/

namespace PluginKit

/-- A floating point number given by its bits. -/
structure Binary64 where
  bits : UInt64
  deriving DecidableEq, Repr, Inhabited

namespace Binary64

/-- The bit that marks a negative number. -/
def isNegative (x : Binary64) : Bool := x.bits.toNat / Nat.pow 2 63 == 1

/-- The eleven bits that give the exponent. -/
def biased (x : Binary64) : Nat := x.bits.toNat / Nat.pow 2 52 % Nat.pow 2 11

/-- The 52 bits below them. -/
def fraction (x : Binary64) : Nat := x.bits.toNat % Nat.pow 2 52

/-- The integer that the exponent scales. The leading bit is implied except near zero. -/
def mantissa (x : Binary64) : Nat :=
  if x.biased = 0 then x.fraction else Nat.pow 2 52 + x.fraction

/-- The power of two that scales the mantissa. -/
def exponent (x : Binary64) : Int :=
  if x.biased = 0 then -1074 else (x.biased : Int) - 1075

/-- Neither an infinity nor without a value. -/
def isFinite (x : Binary64) : Bool := x.biased != 2047

/-- Zero of either sign. -/
def isZero (x : Binary64) : Bool := x.biased == 0 && x.fraction == 0

/-- The number with the opposite sign bit. -/
def neg (x : Binary64) : Binary64 := ⟨x.bits ^^^ 0x8000000000000000⟩

/-- Positive zero. -/
def zero : Binary64 := ⟨0⟩

/-- The number with the given sign, biased exponent and fraction. -/
def ofParts (negative : Bool) (biased fraction : Nat) : Binary64 :=
  ⟨UInt64.ofNat ((if negative then Nat.pow 2 63 else 0) + biased * Nat.pow 2 52 + fraction)⟩

/-! ## Rounding -/

/-- The integer nearest to `num / den`, a tie going to the even one. -/
def roundDiv (num den : Nat) : Nat :=
  let q := num / den
  let r := num % den
  if 2 * r < den then q else if 2 * r > den then q + 1 else if q % 2 = 0 then q else q + 1

/-- `num / den * 2^(-e)` as a fraction of natural numbers. -/
def scaled (num den : Nat) (e : Int) : Nat × Nat :=
  if e < 0 then (num <<< (-e).toNat, den) else (num, den <<< e.toNat)

/-- The exponent at which the mantissa of `num / den` has 53 bits, but not below the least one. -/
def exponentFor (num den : Nat) : Int :=
  let e := max (-1074) ((Nat.log2 num : Int) - (Nat.log2 den : Int) - 53)
  let (n, d) := scaled num den e
  if n / d < Nat.pow 2 53 then e else e + 1

/-- The finite number nearest to `num / den`, or nothing if it lies beyond the largest. -/
def ofRatio (negative : Bool) (num den : Nat) : Option Binary64 :=
  if num = 0 then some (ofParts negative 0 0)
  else
    let e := exponentFor num den
    let (n, d) := scaled num den e
    let m := roundDiv n d
    let (m, e) := if m = Nat.pow 2 53 then (Nat.pow 2 52, e + 1) else (m, e)
    if m < Nat.pow 2 52 then some (ofParts negative 0 m)
    else if 971 < e then none
    else some (ofParts negative (e + 1075).toNat (m - Nat.pow 2 52))

/-- The finite number nearest to a natural number. -/
def ofNat? (n : Nat) : Option Binary64 := ofRatio false n 1

/-- The magnitude as a fraction of natural numbers. -/
def ratio (x : Binary64) : Nat × Nat :=
  if x.exponent < 0 then (x.mantissa, Nat.pow 2 (-x.exponent).toNat)
  else (x.mantissa * Nat.pow 2 x.exponent.toNat, 1)

/-- The product, or nothing if it lies beyond the largest number. -/
def mul? (x y : Binary64) : Option Binary64 :=
  let (a, b) := x.ratio
  let (c, d) := y.ratio
  ofRatio (x.isNegative != y.isNegative) (a * c) (b * d)

/-- The quotient by a number that is not zero, or nothing if it lies beyond the largest number. -/
def div? (x y : Binary64) : Option Binary64 :=
  let (a, b) := x.ratio
  let (c, d) := y.ratio
  ofRatio (x.isNegative != y.isNegative) (a * d) (b * c)

/-! ## Comparison by value -/

/-- The order of two finite numbers by value. The two zeros are equal. -/
def compareValue (x y : Binary64) : Ordering :=
  let (a, b) := x.ratio
  let (c, d) := y.ratio
  let sx : Int := if x.isNegative then -1 else 1
  let sy : Int := if y.isNegative then -1 else 1
  compare (sx * (a * d : Nat)) (sy * (c * b : Nat))

/-- The value as an integer, if it is one. -/
def toInt? (x : Binary64) : Option Int :=
  let (a, b) := x.ratio
  if a % b = 0 then some ((if x.isNegative then -1 else 1) * (a / b : Nat)) else none

end Binary64

end PluginKit
