import PluginKit.Json.Printer

/-!
# Values of JSON numbers

Two numbers may be written differently and still have the same value: `1` and `1.0`. Comparison by
value is exact.
-/

namespace PluginKit.Json

namespace Number

/-- The value as a fraction with a positive denominator. -/
def ratio : Number → Int × Nat
  | .int n => (n, 1)
  | .float x =>
    let (a, b) := x.ratio
    (if x.isNegative then -(a : Int) else a, b)

/-- The order by value. -/
def compareValue (x y : Number) : Ordering :=
  compare (x.ratio.1 * y.ratio.2) (y.ratio.1 * x.ratio.2)

/-- Whether the value is an integer. -/
def isWhole (x : Number) : Bool := x.ratio.1 % x.ratio.2 == 0

/-- The nearest floating point number. -/
def toBinary64 : Number → Binary64
  | .int n => (Binary64.ofRatio (decide (n < 0)) n.natAbs 1).getD .zero
  | .float x => x

/-- Whether the values are equal. -/
def sameValue (x y : Number) : Bool := x.compareValue y == .eq

end Number

mutual
/-- Equality that looks at the values of numbers and not at their form. -/
def sameValue : Json → Json → Bool
  | .null, .null => true
  | .bool a, .bool b => a == b
  | .num a, .num b => a.sameValue b
  | .str a, .str b => a == b
  | .arr a, .arr b => sameItems a b
  | .obj a, .obj b => sameMembers a b
  | _, _ => false
/-- `sameValue` item by item. -/
def sameItems : List Json → List Json → Bool
  | [], [] => true
  | x :: xs, y :: ys => sameValue x y && sameItems xs ys
  | _, _ => false
/-- `sameValue` member by member. -/
def sameMembers : List (String × Json) → List (String × Json) → Bool
  | [], [] => true
  | (j, x) :: xs, (k, y) :: ys => j == k && sameValue x y && sameMembers xs ys
  | _, _ => false
end

mutual
/-- How many arrays and objects lie inside one another. -/
def depth : Json → Nat
  | .arr xs => depthItems xs + 1
  | .obj ms => depthMembers ms + 1
  | _ => 0
/-- The largest depth of an item. -/
def depthItems : List Json → Nat
  | [] => 0
  | x :: xs => max (depth x) (depthItems xs)
/-- The largest depth of a member. -/
def depthMembers : List (String × Json) → Nat
  | [] => 0
  | (_, x) :: xs => max (depth x) (depthMembers xs)
end

mutual
/-- How many values there are, this one and those inside. -/
def size : Json → Nat
  | .arr xs => sizeItems xs + 1
  | .obj ms => sizeMembers ms + 1
  | _ => 1
/-- The sizes of the items together. -/
def sizeItems : List Json → Nat
  | [] => 0
  | x :: xs => size x + sizeItems xs
/-- The sizes of the members together. -/
def sizeMembers : List (String × Json) → Nat
  | [] => 0
  | (_, x) :: xs => size x + sizeMembers xs
end

/-! ## Pointers -/

/-- The name that a part of a pointer stands for. -/
def pointerName : List Char → List Char
  | '~' :: '1' :: cs => '/' :: pointerName cs
  | '~' :: '0' :: cs => '~' :: pointerName cs
  | c :: cs => c :: pointerName cs
  | [] => []

/-- A name as a part of a pointer. -/
def pointerPart (name : String) : List Char :=
  name.toList.flatMap fun c => if c = '~' then ['~', '0'] else if c = '/' then ['~', '1'] else [c]

/-- The pointer along names. -/
def pointer (names : List String) : String :=
  String.ofList (names.flatMap fun n => '/' :: pointerPart n)

/-- The index that a name stands for: digits without a zero in front. -/
def index? (name : List Char) : Option Nat :=
  if name.isEmpty ∨ !name.all Char.isDigit ∨ (1 < name.length ∧ name.head? = some '0') then none
  else (String.ofList name).toNat?

/-- The value under a name: a member, or an item by its index. -/
def under? (name : List Char) : Json → Option Json
  | .obj ms => ms.lookup (String.ofList name)
  | .arr xs => (index? name).bind fun i => xs[i]?
  | _ => none

end PluginKit.Json
