/-!
# Sets of characters

A set of code points is kept as its ranges in ascending order, of which no two meet, so that equal sets
are equal values. Tables of characters are written down as text: ranges in hexadecimal digits, or runs
of code points that have a name in common.
-/

namespace PluginKit.Unicode

/-- The last code point. -/
def lastCodePoint : Nat := 0x10FFFF

/-- A set of code points. -/
structure CharSet where
  ranges : List (Nat × Nat)
  deriving DecidableEq, Repr, Inhabited

namespace CharSet

/-- Whether a code point lies in one of some ascending ranges. -/
def hasIn (n : Nat) : List (Nat × Nat) → Bool
  | [] => false
  | (a, b) :: rest => if n < a then false else n ≤ b || hasIn n rest

/-- Membership. -/
def has (s : CharSet) (n : Nat) : Bool := hasIn n s.ranges

/-- No code point. -/
def empty : CharSet := ⟨[]⟩

/-- The code points from one to another. -/
def range (first last : Nat) : CharSet := ⟨if first ≤ last then [(first, last)] else []⟩

/-- A single code point. -/
def single (n : Nat) : CharSet := range n n

/-- A range and ascending ones after it, with those that meet made one. -/
def joinFrom : Nat × Nat → List (Nat × Nat) → List (Nat × Nat)
  | r, [] => [r]
  | (a, b), (c, d) :: rest =>
    if c ≤ b + 1 then joinFrom (a, max b d) rest else (a, b) :: joinFrom (c, d) rest

/-- Ascending ranges with those that meet made one. -/
def join : List (Nat × Nat) → List (Nat × Nat)
  | [] => []
  | r :: rest => joinFrom r rest

/-- Whether a range starts no later than another one. -/
def startsBefore (r q : Nat × Nat) : Bool := r.1 ≤ q.1

/-- The set of ranges in any order. -/
def ofRanges (rs : List (Nat × Nat)) : CharSet := ⟨join (rs.mergeSort startsBefore)⟩

/-- The set of ascending runs, each given by its start and its length. -/
def ofAscending (runs : List (Nat × Nat)) : CharSet := ⟨join (runs.map fun r => (r.1, r.1 + r.2 - 1))⟩

/-- The code points of both sets. -/
def union (s t : CharSet) : CharSet := ⟨join (List.merge s.ranges t.ranges startsBefore)⟩

/-- The ranges between ascending ranges, from a code point on. -/
def gaps : Nat → List (Nat × Nat) → List (Nat × Nat)
  | n, [] => if n ≤ lastCodePoint then [(n, lastCodePoint)] else []
  | n, (a, b) :: rest => if n < a then (n, a - 1) :: gaps (b + 1) rest else gaps (b + 1) rest

/-- All other code points. -/
def complement (s : CharSet) : CharSet := ⟨gaps 0 s.ranges⟩

/-- The code points that two sets have in common. -/
def inter (s t : CharSet) : CharSet := (s.complement.union t.complement).complement

/-- The code points of one set that are not in another one. -/
def difference (s t : CharSet) : CharSet := s.inter t.complement

/-- The code points that are in one of two sets only. -/
def symmetricDifference (s t : CharSet) : CharSet := (s.union t).difference (s.inter t)

/-- All code points. -/
def full : CharSet := empty.complement

end CharSet

/-! ## Tables -/

/-- The value of hexadecimal digits. -/
def hexadecimal (digits : List Char) : Nat :=
  digits.foldl
    (fun n c => 16 * n + if c.isDigit then c.toNat - '0'.toNat else c.toNat - 'a'.toNat + 10) 0

/-- The range in a word of a table: two code points with a hyphen between them, or a single one. -/
def rangeOf (word : String) : Nat × Nat :=
  match word.splitOn "-" with
  | [a, b] => (hexadecimal a.toList, hexadecimal b.toList)
  | _ => (hexadecimal word.toList, hexadecimal word.toList)

/-- The set that a table of ranges gives. -/
def CharSet.ofText (text : List String) : CharSet :=
  .ofRanges (((text.flatMap fun line => line.splitOn " ").filter (· != "")).map rangeOf)

/-- How far a table of runs has been read. The letters of a name and the runs stand in reverse. -/
structure RunReader where
  start : Nat := 0
  name : List Char := []
  count : Nat := 0
  done : List (String × Nat × Nat) := []

namespace RunReader

/-- Ends a run. -/
def finish (r : RunReader) : RunReader :=
  if r.name.isEmpty then r
  else
    let n := max r.count 1
    { start := r.start + n, done := (String.ofList r.name.reverse, r.start, n) :: r.done }

/-- One character further. A capital letter starts a new name. -/
def next (r : RunReader) (c : Char) : RunReader :=
  if c.isUpper then { r.finish with name := [c] }
  else if c.isDigit then { r with count := 10 * r.count + (c.toNat - '0'.toNat) }
  else { r with name := c :: r.name }

end RunReader

/-- The runs of a table: the name of each, its start and its length. -/
def namedRuns (text : List String) : List (String × Nat × Nat) :=
  (text.foldl (fun (r : RunReader) (line : String) => line.toList.foldl RunReader.next r)
    {}).finish.done.reverse

end PluginKit.Unicode
