import PluginKit.Text.Blank

/-!
# Punycode

Names that are not ASCII are written in letters, digits and hyphens: first the characters of ASCII, then
what has to be put between them, by ascending code points. Each number says how many steps lie between
one insertion and the next, where a step goes to the next place or, after the last one, to the next code
point. Numbers have digits of varying weight, so that each one shows where it ends.

## Main statements

- `digit?_digit`: a digit is read as its value.
-/

namespace PluginKit.Url.Punycode

/-- The value of a digit. -/
def digit? (c : Char) : Option Nat :=
  if 'a' ≤ c ∧ c ≤ 'z' then some (c.toNat - 'a'.toNat)
  else if 'A' ≤ c ∧ c ≤ 'Z' then some (c.toNat - 'A'.toNat)
  else if c.isDigit then some (c.toNat - '0'.toNat + 26)
  else none

/-- The digit of a value below 36. -/
def digit (n : Nat) : Char := Char.ofNat (if n < 26 then 'a'.toNat + n else '0'.toNat + (n - 26))

/-- A digit is read as its value. -/
theorem digit?_digit (n : Fin 36) : digit? (digit n.val) = some n.val := by
  revert n
  decide

/-- From this digit on a digit ends a number. `position` counts 36 for every digit. -/
def threshold (position bias : Nat) : Nat :=
  if position ≤ bias then 1 else if bias + 26 ≤ position then 26 else position - bias

/-- Every threshold leaves digits that go on and digits that end. -/
theorem threshold_bounds (position bias : Nat) :
    1 ≤ threshold position bias ∧ threshold position bias ≤ 26 := by
  unfold threshold
  split
  · omega
  · split <;> omega

/-- Divides a distance until it is small and counts 36 for every division. -/
def damp (distance count : Nat) : Nat :=
  if 455 < distance then damp (distance / 35) (count + 36)
  else count + 36 * distance / (distance + 38)
termination_by distance
decreasing_by omega

/-- The bias after a number. The first number is expected to be larger than later ones. -/
def adapt (distance points : Nat) (first : Bool) : Nat :=
  let d := if first then distance / 700 else distance / 2
  damp (d + d / points) 0

/-! ## Reading -/

/-- The state of the reader: the code points so far, the last one inserted and the place after it, and the
number under way. -/
structure Progress where
  points : List Nat
  code : Nat := 0x80
  place : Nat := 0
  bias : Nat := 72
  position : Nat := 36
  weight : Nat := 1
  distance : Nat := 0

/-- One digit. -/
def Progress.next (p : Progress) (c : Char) : Option Progress := do
  let d ← digit? c
  let distance := p.distance + d * p.weight
  let t := threshold p.position p.bias
  if t ≤ d then
    some { p with position := p.position + 36, weight := p.weight * (36 - t), distance }
  else
    let count := p.points.length + 1
    let steps := p.place + distance
    let code := p.code + steps / count
    let place := steps % count
    if code < 0xD800 ∨ 0xE000 ≤ code ∧ code < 0x110000 then
      some
        { points := p.points.insertIdx place code, code, place := place + 1,
          bias := adapt distance count (p.place == 0) }
    else none

/-- The characters of ASCII at the start and the digits after them. -/
def parts (s : List Char) : List Char × List Char :=
  match Text.splitLast '-' s with
  | some (c :: start, digits) => (c :: start, digits)
  | _ => ([], s)

/-- Reads a name. -/
def decode (s : List Char) : Option (List Char) := do
  let (start, digits) := parts s
  if start.any fun c => 0x80 ≤ c.toNat then none
  else
    let p ← digits.foldlM Progress.next { points := start.map Char.toNat }
    if p.position = 36 then some (p.points.map Char.ofNat) else none

/-! ## Writing -/

/-- The digits of a number. -/
def digits (bias position n : Nat) : List Char :=
  let t := threshold position bias
  if n < t then [digit n]
  else digit (t + (n - t) % (36 - t)) :: digits bias (position + 36) ((n - t) / (36 - t))
termination_by n
decreasing_by
  have bounds := threshold_bounds position bias
  calc (n - threshold position bias) / (36 - threshold position bias)
      ≤ n - threshold position bias := Nat.div_le_self _ _
    _ < n := by omega

/-- The state of the writer: the numbers so far, how many characters they and those of ASCII are, and the
steps since the last insertion. -/
structure Writing where
  written : List Char := []
  count : Nat
  bias : Nat := 72
  distance : Nat := 0
  first : Bool := true

/-- Passes a character while those of one code point are inserted. -/
def Writing.pass (code : Nat) (w : Writing) (c : Char) : Writing :=
  if c.toNat < code then { w with distance := w.distance + 1 }
  else if c.toNat = code then
    { written := w.written ++ digits w.bias 36 w.distance, count := w.count + 1,
      bias := adapt w.distance (w.count + 1) w.first, first := false }
  else w

/-- Inserts the characters of ascending code points, all of which are at least `least`. -/
def Writing.insert (s : List Char) : Nat → List Nat → Writing → Writing
  | _, [], w => w
  | least, code :: rest, w =>
    let start := { w with distance := w.distance + (code - least) * (w.count + 1) }
    let passed := s.foldl (Writing.pass code) start
    insert s (code + 1) rest { passed with distance := passed.distance + 1 }

/-- Writes a name. -/
def encode (s : List Char) : List Char :=
  let start := s.filter fun c => c.toNat < 0x80
  let others := ((s.filter fun c => 0x80 ≤ c.toNat).map Char.toNat).eraseDups.mergeSort
  let written := (Writing.insert s 0x80 others { count := start.length }).written
  if start.isEmpty then written else start ++ '-' :: written

end PluginKit.Url.Punycode
